import AsterYggdrasil.Frontend.UndoHistory

/-!
# The history of the skin editor

An entry of the history leads from what the editor shows to what it showed before:
it carries the whole image, or the pixels of a stroke with the colours they had.
`restoreSkinHistoryEntry` goes there and leaves the entry that leads back
(`restore_leads`).  Every entry carries the id of the state it leads to; `Chain`
says that each entry of a history leads to what its id stands for, one after the
other.
-/

namespace AsterYggdrasil.SkinEditor

inductive MinecraftTextureModel
  | default | slim
  deriving DecidableEq, Repr

/-- `HISTORY_LIMIT`. -/
def historyLimit : Nat := 100

/-- `HISTORY_MEMORY_LIMIT`. -/
def historyMemoryLimit : Nat := 128 * 1024 * 1024

/-- The pixels of a square canvas, as packed by `packedPixel`.  Its size is one that
`skinScale` accepts. -/
structure Image where
  size : Nat
  pixels : List Nat
  sized : 0 < size ∧ 64 ∣ size
  filled : pixels.length = size * size
  deriving DecidableEq, Repr

/-- An image and the model it is meant for. -/
structure Skin where
  image : Image
  model : MinecraftTextureModel
  deriving DecidableEq, Repr

inductive SkinEditorHistoryEntry
  | snapshot (image : Image) (model : MinecraftTextureModel) (stateId : Nat)
  /-- `indices` and `colors`, as pairs -/
  | pixels (colors : List (Nat × Nat)) (model : MinecraftTextureModel) (size : Nat) (stateId : Nat)
  deriving DecidableEq, Repr

namespace SkinEditorHistoryEntry

def stateId : SkinEditorHistoryEntry → Nat
  | snapshot _ _ stateId | pixels _ _ _ stateId => stateId

/-- `historyEntryByteLength`: four bytes a pixel, or four for each index and each
colour. -/
def byteLength : SkinEditorHistoryEntry → Nat
  | snapshot image _ _ => 4 * (image.size * image.size)
  | pixels colors _ _ _ => 4 * colors.length + 4 * colors.length

end SkinEditorHistoryEntry

/-! ## The bounded history -/

/-- `pushBoundedHistory`. -/
def pushBoundedHistory (entries : List SkinEditorHistoryEntry) (entry : SkinEditorHistoryEntry) :
    List SkinEditorHistoryEntry :=
  UndoHistory.dropOldest historyLimit historyMemoryLimit SkinEditorHistoryEntry.byteLength
    (entries ++ [entry])

/-- Newest first, what is left of the history is a beginning of it. -/
theorem reverse_pushBoundedHistory (entries : List SkinEditorHistoryEntry)
    (entry : SkinEditorHistoryEntry) :
    (pushBoundedHistory entries entry).reverse <+: entry :: entries.reverse := by
  have hsuffix : pushBoundedHistory entries entry <:+ entries ++ [entry] :=
    UndoHistory.dropOldest_suffix ..
  have hbegin := List.reverse_prefix.mpr hsuffix
  rwa [List.reverse_append] at hbegin

/-! ## Pixels -/

/-- Some pixels get a colour. -/
def setColors (pixels : List Nat) (colors : List (Nat × Nat)) : List Nat :=
  colors.foldl (fun pixels p => pixels.set p.1 p.2) pixels

theorem length_setColors (pixels : List Nat) (colors : List (Nat × Nat)) :
    (setColors pixels colors).length = pixels.length := by
  induction colors generalizing pixels with
  | nil => rfl
  | cons p colors ih => exact (ih _).trans (List.length_set ..)

theorem getElem?_setColors_of_notMem {pixels : List Nat} {colors : List (Nat × Nat)} {i : Nat}
    (h : i ∉ colors.map Prod.fst) : (setColors pixels colors)[i]? = pixels[i]? := by
  induction colors generalizing pixels with
  | nil => rfl
  | cons p colors ih =>
      simp only [List.map_cons, List.mem_cons, not_or] at h
      have hrest : (setColors (pixels.set p.1 p.2) colors)[i]? = (pixels.set p.1 p.2)[i]? :=
        ih h.2
      rw [List.getElem?_set_ne (Ne.symm h.1)] at hrest
      exact hrest

theorem getElem?_setColors_of_mem {pixels : List Nat} {colors : List (Nat × Nat)} {p : Nat × Nat}
    (hkeys : (colors.map Prod.fst).Nodup) (hp : p ∈ colors) (hlt : p.1 < pixels.length) :
    (setColors pixels colors)[p.1]? = some p.2 := by
  induction colors generalizing pixels with
  | nil => cases hp
  | cons q colors ih =>
      simp only [List.map_cons, List.nodup_cons] at hkeys
      rcases List.mem_cons.mp hp with rfl | hmem
      · have hrest : (setColors (pixels.set p.1 p.2) colors)[p.1]? =
            (pixels.set p.1 p.2)[p.1]? := getElem?_setColors_of_notMem hkeys.1
        rw [List.getElem?_set_self hlt] at hrest
        exact hrest
      · have hlength : p.1 < (pixels.set q.1 q.2).length := by rwa [List.length_set]
        exact ih hkeys.2 hmem hlength

/-- `packedPixel` of the pixel at an index. -/
def Image.pixel (image : Image) (i : Nat) : Nat := image.pixels[i]?.getD 0

/-- Some pixels of an image get a colour. -/
def Image.paint (image : Image) (colors : List (Nat × Nat)) : Image :=
  { image with
    pixels := setColors image.pixels colors
    filled := (length_setColors ..).trans image.filled }

/-- `clearRect` of the whole canvas. -/
def Image.clear (image : Image) : Image :=
  { image with
    pixels := List.replicate (image.size * image.size) 0
    filled := List.length_replicate }

/-- `swapPixelColors`.  No pixel occurs twice, so all of them can be read before the
first is written. -/
def Image.swapPixelColors (image : Image) (colors : List (Nat × Nat)) :
    List (Nat × Nat) × Image :=
  (colors.map fun p => (p.1, image.pixel p.1), image.paint colors)

theorem Image.ext_pixels {a b : Image} (hsize : a.size = b.size)
    (hpixels : ∀ i : Nat, a.pixels[i]? = b.pixels[i]?) : a = b := by
  obtain ⟨size, pixels, _, _⟩ := a
  obtain ⟨size', pixels', _, _⟩ := b
  obtain rfl : size = size' := hsize
  obtain rfl : pixels = pixels' := List.ext_getElem? hpixels
  rfl

/-- One image has the given colours, and is like another one elsewhere. -/
structure Differs (colors : List (Nat × Nat)) (image target : Image) : Prop where
  keys : (colors.map Prod.fst).Nodup
  size : target.size = image.size
  there : ∀ p ∈ colors, target.pixels[p.1]? = some p.2
  elsewhere : ∀ i, i ∉ colors.map Prod.fst → target.pixels[i]? = image.pixels[i]?

namespace Differs

variable {colors : List (Nat × Nat)} {image target : Image}

theorem length_eq (h : Differs colors image target) :
    target.pixels.length = image.pixels.length := by
  rw [target.filled, image.filled, h.size]

theorem lt_length (h : Differs colors image target) {p : Nat × Nat} (hp : p ∈ colors) :
    p.1 < image.pixels.length := by
  rw [← h.length_eq]
  exact (List.getElem?_eq_some_iff.mp (h.there p hp)).1

/-- Setting the colours gives the other image. -/
theorem paint_eq (h : Differs colors image target) : image.paint colors = target := by
  refine Image.ext_pixels h.size.symm fun i => ?_
  by_cases hi : i ∈ colors.map Prod.fst
  · obtain ⟨p, hp, rfl⟩ := List.mem_map.mp hi
    exact (getElem?_setColors_of_mem h.keys hp (h.lt_length hp)).trans (h.there p hp).symm
  · exact (getElem?_setColors_of_notMem hi).trans (h.elsewhere i hi).symm

/-- The colours that a swap has found lead back. -/
theorem symm (h : Differs colors image target) :
    Differs (image.swapPixelColors colors).1 target image := by
  have hkeys : ((image.swapPixelColors colors).1).map Prod.fst = colors.map Prod.fst := by
    simp only [Image.swapPixelColors, List.map_map]
    rfl
  refine ⟨hkeys ▸ h.keys, h.size.symm, fun p hp => ?_, fun i hi => ?_⟩
  · obtain ⟨q, hq, rfl⟩ := List.mem_map.mp hp
    have hlt := h.lt_length hq
    simp [Image.pixel, List.getElem?_eq_getElem hlt]
  · rw [hkeys] at hi
    exact (h.elsewhere i hi).symm

end Differs

/-! ## Going there and back -/

/-- `restoreSkinHistoryEntry`: what is shown then, and the entry that leads back;
`none` if it throws. -/
def restoreSkinHistoryEntry (entry : SkinEditorHistoryEntry) (current : Skin) (stateId : Nat) :
    Option (Skin × SkinEditorHistoryEntry) :=
  match entry with
  | .snapshot image model _ =>
      some (⟨image, model⟩, .snapshot current.image current.model stateId)
  | .pixels colors model size _ =>
      if size ≠ current.image.size then none
      else
        let (previous, image) := current.image.swapPixelColors colors
        some (⟨image, model⟩, .pixels previous current.model size stateId)

/-- An entry leads from one skin to another. -/
def SkinEditorHistoryEntry.Leads (current target : Skin) : SkinEditorHistoryEntry → Prop
  | .snapshot image model _ => target = ⟨image, model⟩
  | .pixels colors model size _ =>
      size = current.image.size ∧ target.model = model ∧ Differs colors current.image target.image

/-- **There and back.** -/
theorem restore_leads {entry : SkinEditorHistoryEntry} {current target : Skin} (stateId : Nat)
    (h : entry.Leads current target) :
    ∃ inverse, restoreSkinHistoryEntry entry current stateId = some (target, inverse) ∧
      inverse.stateId = stateId ∧ inverse.Leads target current := by
  cases entry with
  | snapshot image model id =>
      obtain rfl : target = ⟨image, model⟩ := h
      exact ⟨_, rfl, rfl, rfl⟩
  | pixels colors model size id =>
      obtain ⟨rfl, rfl, hdiffers⟩ := h
      refine ⟨.pixels (current.image.swapPixelColors colors).1 current.model current.image.size
        stateId, ?_, rfl, hdiffers.size.symm, rfl, hdiffers.symm⟩
      simp only [restoreSkinHistoryEntry, ne_eq, not_true_eq_false, if_false]
      rw [show (current.image.swapPixelColors colors).2 = target.image from hdiffers.paint_eq]

/-- Each entry leads from what the one before it leads to, to what its id stands
for.  The newest entry comes first. -/
def Chain (content : Nat → Skin) (current : Skin) : List SkinEditorHistoryEntry → Prop
  | [] => True
  | entry :: entries =>
      entry.Leads current (content entry.stateId) ∧
        Chain content (content entry.stateId) entries

section Chain

variable {content content' : Nat → Skin} {current : Skin}
  {entries entries' : List SkinEditorHistoryEntry}

theorem Chain.of_prefix (h : Chain content current entries') (hbegin : entries <+: entries') :
    Chain content current entries := by
  induction entries generalizing current entries' with
  | nil => trivial
  | cons entry entries ih =>
      obtain ⟨rest, rfl⟩ := hbegin
      exact ⟨h.1, ih h.2 (List.prefix_append ..)⟩

/-- Only the ids in the history matter. -/
theorem Chain.congr (h : Chain content current entries)
    (hsame : ∀ entry ∈ entries, content' entry.stateId = content entry.stateId) :
    Chain content' current entries := by
  induction entries generalizing current with
  | nil => trivial
  | cons entry entries ih =>
      rw [Chain, hsame entry List.mem_cons_self]
      exact ⟨h.1, ih h.2 fun e he => hsame e (List.mem_cons_of_mem _ he)⟩

/-- A new entry goes on top. -/
theorem Chain.push {entry : SkinEditorHistoryEntry}
    (h : Chain content (content entry.stateId) entries.reverse)
    (hentry : entry.Leads current (content entry.stateId)) :
    Chain content current (pushBoundedHistory entries entry).reverse := by
  have hchain : Chain content current (entry :: entries.reverse) := ⟨hentry, h⟩
  exact hchain.of_prefix (reverse_pushBoundedHistory entries entry)

end Chain

end AsterYggdrasil.SkinEditor
