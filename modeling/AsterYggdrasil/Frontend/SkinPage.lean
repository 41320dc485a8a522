import AsterYggdrasil.Frontend.PixelSwaps
import AsterYggdrasil.Frontend.UndoHistory
import AsterYggdrasil.Frontend.UnsavedWork

/-!
# The skin editor, down to the bytes

The page of the editor has the bytes of its canvas, and entries of the history with packed pixels
and `u32` indices.  What it does with them is what the editor does with the images that they show:
`restore_refines` for an entry of the history, and `paintPixel_refines` for a pixel of a stroke.
-/

namespace AsterYggdrasil.SkinPage

open SkinPixels SkinEditor UndoHistory

/-! ## What a canvas shows -/

/-- The image that a canvas shows. -/
def Canvas.image (canvas : Canvas) : Image where
  size := canvas.size
  pixels := (List.range (canvas.size * canvas.size)).map fun i =>
    (packedPixel (colorAt canvas.data i)).toNat
  sized := by
    have hvalid := validSize_iff.mp canvas.sized
    exact ⟨by omega, by omega⟩
  filled := by rw [List.length_map, List.length_range]

theorem Canvas.getElem?_image (canvas : Canvas) (i : Nat) :
    canvas.image.pixels[i]? = if i < canvas.size * canvas.size then
      some (packedPixel (colorAt canvas.data i)).toNat else none := by
  simp only [Canvas.image, List.getElem?_map]
  split
  · next hlt => rw [List.getElem?_range hlt, Option.map_some]
  · next hge => rw [List.getElem?_eq_none (by rw [List.length_range]; omega), Option.map_none]

theorem Canvas.pixel_image {canvas : Canvas} {i : Nat} (h : i < canvas.size * canvas.size) :
    canvas.image.pixel i = (packedPixel (colorAt canvas.data i)).toNat := by
  rw [Image.pixel, canvas.getElem?_image, if_pos h, Option.getD_some]

/-- **A canvas is what it shows.** -/
theorem Canvas.image_injective : Function.Injective Canvas.image := by
  intro canvas canvas' h
  have hsize : canvas.size = canvas'.size := congrArg Image.size h
  have hdata : canvas'.data = canvas.data := by
    apply ext_colorAt canvas.filled (hsize ▸ canvas'.filled)
    intro i hi
    have hpixel : canvas.image.pixels[i]? = canvas'.image.pixels[i]? := by rw [h]
    rw [canvas.getElem?_image, canvas'.getElem?_image, if_pos hi, if_pos (hsize ▸ hi),
      Option.some.injEq, UInt32.toNat_inj] at hpixel
    exact (packedPixel_injective hpixel).symm
  cases canvas
  cases canvas'
  simp_all

/-- A pixel of a canvas is set. -/
def Canvas.setPixel (canvas : Canvas) (i : Nat) (color : Color) : Canvas :=
  { canvas with
    data := setColor canvas.data i color
    filled := (length_setColor ..).trans canvas.filled }

/-- `clearRect` of the whole canvas. -/
def Canvas.clear (canvas : Canvas) : Canvas :=
  { canvas with
    data := List.replicate (canvas.size * canvas.size * 4) 0
    filled := List.length_replicate }

/-! ## Entries of the history -/

/-- `SkinEditorHistoryEntry`. -/
inductive HistoryEntry
  | snapshot (image : Canvas) (model : MinecraftTextureModel) (stateId : Nat)
  | pixels (colors indices : List UInt32) (model : MinecraftTextureModel) (size stateId : Nat)
  deriving DecidableEq

/-- What the page shows, and the id that it has. -/
structure State where
  canvas : Canvas
  model : MinecraftTextureModel
  stateId : Nat
  deriving DecidableEq

/-- What is shown. -/
def State.skin (s : State) : Skin := ⟨s.canvas.image, s.model⟩

namespace HistoryEntry

def stateId : HistoryEntry → Nat
  | snapshot _ _ stateId | pixels _ _ _ _ stateId => stateId

/-- `historyEntryByteLength`. -/
def byteLength : HistoryEntry → Nat
  | snapshot image _ _ => image.data.length
  | pixels colors indices _ _ _ => 4 * indices.length + 4 * colors.length

/-- The entry without its packing. -/
def unpacked : HistoryEntry → SkinEditorHistoryEntry
  | snapshot image model stateId => .snapshot image.image model stateId
  | pixels colors indices model size stateId =>
      .pixels ((indices.map UInt32.toNat).zip (colors.map UInt32.toNat)) model size stateId

/-- There is a color for each index. -/
def Balanced : HistoryEntry → Prop
  | snapshot _ _ _ => True
  | pixels colors indices _ _ _ => colors.length = indices.length

/-- An entry leads from one state to another. -/
structure Leads (entry : HistoryEntry) (s target : State) : Prop where
  balanced : entry.Balanced
  skin : entry.unpacked.Leads s.skin target.skin
  stateId : entry.stateId = target.stateId

end HistoryEntry

/-- `pushBoundedHistory`. -/
def pushBoundedHistory (entries : List HistoryEntry) (entry : HistoryEntry) : List HistoryEntry :=
  UndoHistory.dropOldest historyLimit historyMemoryLimit HistoryEntry.byteLength
    (entries ++ [entry])

/-- `restoreSkinHistoryEntry`: the state then, and the inverse entry. -/
def restoreSkinHistoryEntry (entry : HistoryEntry) (current : State) :
    Except Failure (State × HistoryEntry) :=
  match entry with
  | .snapshot image model stateId =>
      .ok (⟨image, model, stateId⟩,
        .snapshot current.canvas current.model current.stateId)
  | .pixels colors indices model size stateId =>
      if size ≠ current.canvas.size then .error (.thrown "invalid_skin_history")
      else do
        let (canvas, previous) ← swapPixelColors current.canvas indices colors size
        pure (⟨canvas, model, stateId⟩,
          .pixels previous indices current.model size current.stateId)

section Restore

variable {canvas canvas' : Canvas} {indices colors : List UInt32}

/-- **A swap of pixels** is one of what is shown. -/
theorem swap_refines (hlength : colors.length = indices.length) {target : Image}
    (hdiffers : Differs ((indices.map UInt32.toNat).zip (colors.map UInt32.toNat)) canvas.image
      target) :
    ∃ canvas' previous, swapPixelColors canvas indices colors canvas.size =
        .ok (canvas', previous) ∧ previous.length = indices.length ∧
      canvas.image.swapPixelColors ((indices.map UInt32.toNat).zip (colors.map UInt32.toNat)) =
        ((indices.map UInt32.toNat).zip (previous.map UInt32.toNat), canvas'.image) := by
  have hkeys : ((indices.map UInt32.toNat).zip (colors.map UInt32.toNat)).map Prod.fst =
      indices.map UInt32.toNat :=
    List.map_fst_zip (by rw [List.length_map, List.length_map, hlength])
  have hnodup : indices.Nodup := List.Nodup.of_map _ (hkeys ▸ hdiffers.keys)
  have hinside : ∀ i ∈ indices, i.toNat < canvas.size * canvas.size := by
    intro i hi
    have hkey : i.toNat ∈ ((indices.map UInt32.toNat).zip (colors.map UInt32.toNat)).map
        Prod.fst := by
      rw [hkeys]
      exact List.mem_map_of_mem hi
    obtain ⟨p, hp, hpi⟩ := List.mem_map.mp hkey
    have hlt := hdiffers.lt_length hp
    rwa [canvas.image.filled, hpi] at hlt
  obtain ⟨canvas', hswap, hsize, hwritten, hkept⟩ := swapPixelColors_ok hlength hnodup hinside
  have htarget : target = canvas'.image := by
    have himageSize : target.size = canvas'.image.size := hdiffers.size.trans hsize.symm
    apply Image.ext_pixels himageSize
    intro i
    rw [canvas'.getElem?_image, hsize]
    by_cases hi : i ∈ indices.map UInt32.toNat
    · rw [← hkeys] at hi
      obtain ⟨p, hp, rfl⟩ := List.mem_map.mp hi
      have hlt : p.1 < canvas.size * canvas.size :=
        Nat.lt_of_lt_of_eq (hdiffers.lt_length hp) canvas.image.filled
      rw [hdiffers.there p hp, if_pos hlt]
      rw [List.zip_map] at hp
      obtain ⟨q, hq, rfl⟩ := List.mem_map.mp hp
      rw [Prod.map_fst, Prod.map_snd, hwritten q hq, packedPixel_unpackedPixel]
    · rw [hdiffers.elsewhere i (by rwa [hkeys]), canvas.getElem?_image, hkept i hi]
  have hprevious : ((indices.map UInt32.toNat).zip (colors.map UInt32.toNat)).map
        (fun p => (p.1, canvas.image.pixel p.1)) =
      (indices.map UInt32.toNat).zip ((indices.map fun i =>
        packedPixel (colorAt canvas.data i.toNat)).map UInt32.toNat) := by
    have hfirst : (fun p : Nat × Nat => (p.1, canvas.image.pixel p.1)) =
        (fun i => (i, canvas.image.pixel i)) ∘ Prod.fst := rfl
    rw [hfirst, ← List.map_map, hkeys, List.map_map, List.map_map, List.zip_map']
    apply List.map_congr_left
    intro i hi
    simp only [Function.comp_apply, Canvas.pixel_image (hinside i hi)]
  refine ⟨canvas', _, hswap, List.length_map .., ?_⟩
  rw [Image.swapPixelColors, hprevious, hdiffers.paint_eq, htarget]

/-- **Restoring an entry** is what the editor does with the image that is shown. -/
theorem restore_refines {entry : HistoryEntry} {s : State} {target : Skin}
    (hbalanced : entry.Balanced) (hleads : entry.unpacked.Leads s.skin target) :
    ∃ s' inverse, restoreSkinHistoryEntry entry s = .ok (s', inverse) ∧
      SkinEditor.restoreSkinHistoryEntry entry.unpacked s.skin s.stateId =
        some (s'.skin, inverse.unpacked) ∧
      s'.stateId = entry.stateId ∧ inverse.stateId = s.stateId ∧ inverse.Balanced := by
  cases entry with
  | snapshot image model stateId => exact ⟨_, _, rfl, rfl, rfl, rfl, trivial⟩
  | pixels colors indices model size stateId =>
      obtain ⟨hsize, hmodel, hdiffers⟩ := hleads
      obtain rfl : size = s.canvas.size := hsize
      obtain ⟨canvas', previous, hswap, hlength, himage⟩ := swap_refines hbalanced hdiffers
      refine ⟨⟨canvas', model, stateId⟩,
        .pixels previous indices s.model s.canvas.size s.stateId, ?_, ?_, rfl, rfl, hlength⟩
      · simp only [restoreSkinHistoryEntry, hswap, bind, Except.bind, ne_eq, not_true_eq_false,
          if_false]
        rfl
      · have hsame : ¬s.canvas.size ≠ s.skin.image.size := not_not_intro rfl
        simp only [HistoryEntry.unpacked, SkinEditor.restoreSkinHistoryEntry, if_neg hsame]
        rw [show s.skin.image = s.canvas.image from rfl, himage]
        rfl

/-- **There and back.** -/
theorem restore_leads {entry : HistoryEntry} {s target : State} (h : entry.Leads s target) :
    ∃ inverse, restoreSkinHistoryEntry entry s = .ok (target, inverse) ∧
      inverse.Leads target s := by
  obtain ⟨s', inverse, hrestored, hrefines, hid, hinverse, hbalanced⟩ :=
    restore_refines h.balanced h.skin
  obtain ⟨back, hback, hbackId, hleads⟩ := SkinEditor.restore_leads s.stateId h.skin
  rw [hrefines] at hback
  obtain ⟨hskin, rfl⟩ := Prod.mk.inj (Option.some.inj hback)
  have htarget : s' = target := by
    have hcanvas : s'.canvas = target.canvas :=
      Canvas.image_injective (congrArg Skin.image hskin)
    have hmodel : s'.model = target.model := congrArg Skin.model hskin
    have hsame := hid.trans h.stateId
    cases s'
    cases target
    simp_all
  subst htarget
  exact ⟨inverse, hrestored, hbalanced, hleads, hinverse⟩

end Restore

/-! ## Strokes -/

/-- The tools that draw, and the color of the brush. -/
inductive Tool
  | brush (red green blue : UInt8)
  | eraser
  deriving DecidableEq, Repr

/-- What a tool leaves on a pixel; `none` if it is there already. -/
def Tool.on (current : Color) : Tool → Option Color
  | .eraser => if current.alpha = 0 then none else some ⟨0, 0, 0, 0⟩
  | .brush red green blue =>
      if current = ⟨red, green, blue, 255⟩ then none else some ⟨red, green, blue, 255⟩

/-- The canvas, `strokeBeforeRef` and `strokeChangedRef`. -/
structure Painted where
  canvas : Canvas
  before : List (Nat × UInt32)
  changed : Bool

/-- `paintPixel`, for one pixel that the brush covers. -/
def paintPixel (painted : Painted) (p : Tool × Nat) : Painted :=
  if p.2 < painted.canvas.size * painted.canvas.size then
    let current := colorAt painted.canvas.data p.2
    match p.1.on current with
    | none => painted
    | some color => {
        canvas := painted.canvas.setPixel p.2 color
        before :=
          if p.2 ∈ painted.before.map Prod.fst then painted.before
          else painted.before ++ [(p.2, packedPixel current)]
        changed := true }
  else painted

/-- The ink of a tool. -/
def Tool.ink : Tool → Ink
  | .eraser => .eraser
  | .brush red green blue =>
      .brush (red.toNat + green.toNat * 2 ^ 8 + blue.toNat * 2 ^ 16)

/-- The stroke without its packing. -/
def Painted.stroke (painted : Painted) : Stroke :=
  ⟨painted.before.map fun p => (p.1, p.2.toNat), painted.changed⟩

theorem Tool.on_ink (tool : Tool) (current : Color) :
    tool.ink.on (packedPixel current).toNat =
      (tool.on current).map fun color => (packedPixel color).toNat := by
  have hred := current.red.toNat_lt
  have hgreen := current.green.toNat_lt
  have hblue := current.blue.toNat_lt
  cases tool with
  | eraser =>
      have hclear : (packedPixel current).toNat / 2 ^ 24 = 0 ↔ current.alpha = 0 := by
        rw [toNat_packedPixel, ← UInt8.toNat_inj]
        have hzero : (0 : UInt8).toNat = 0 := rfl
        omega
      simp only [Tool.ink, Ink.on, Tool.on]
      by_cases h : current.alpha = 0
      · rw [if_pos (hclear.mpr h), if_pos h, Option.map_none]
      · rw [if_neg (fun hc => h (hclear.mp hc)), if_neg h, Option.map_some]
        rfl
  | brush red green blue =>
      have hcolor : red.toNat + green.toNat * 2 ^ 8 + blue.toNat * 2 ^ 16 + 255 * 2 ^ 24 =
          (packedPixel ⟨red, green, blue, 255⟩).toNat := by
        rw [toNat_packedPixel]
        rfl
      simp only [Tool.ink, Ink.on, Tool.on, hcolor, UInt32.toNat_inj,
        packedPixel_injective.eq_iff]
      split <;> rfl

/-- A pixel that is set is a pixel of the image. -/
theorem image_setPixel {canvas : Canvas} {i : Nat} (color : Color)
    (h : i < canvas.size * canvas.size) :
    canvas.image.paint [(i, (packedPixel color).toNat)] = (canvas.setPixel i color).image := by
  have hplace : i * 4 + 3 < canvas.data.length := by
    rw [canvas.filled]
    omega
  have hsize : (canvas.image.paint [(i, (packedPixel color).toNat)]).size =
      (canvas.setPixel i color).image.size := rfl
  apply Image.ext_pixels hsize
  intro j
  have hset : (canvas.image.paint [(i, (packedPixel color).toNat)]).pixels[j]? =
      (canvas.image.pixels.set i (packedPixel color).toNat)[j]? := rfl
  rw [hset, Canvas.getElem?_image, List.getElem?_set, canvas.image.filled, canvas.getElem?_image]
  simp only [Canvas.setPixel, colorAt_setColor color hplace]
  by_cases hsame : i = j
  · subst hsame
    rw [if_pos rfl, if_pos h, if_pos rfl]
    exact if_pos h
  · rw [if_neg hsame, if_neg (Ne.symm hsame)]

/-- **Painting a pixel** is what the editor does with the image that is shown. -/
theorem paintPixel_refines (painted : Painted) (p : Tool × Nat) :
    Editor.paintPixel p.1.ink (painted.canvas.image, painted.stroke) p.2 =
      ((paintPixel painted p).canvas.image, (paintPixel painted p).stroke) := by
  obtain ⟨tool, i⟩ := p
  simp only [Editor.paintPixel, paintPixel, painted.canvas.getElem?_image]
  by_cases hi : i < painted.canvas.size * painted.canvas.size
  · rw [if_pos hi, if_pos hi]
    dsimp only
    rw [Tool.on_ink]
    cases hcolor : tool.on (colorAt painted.canvas.data i) with
    | none => rfl
    | some color =>
        have hkeys : painted.stroke.before.map Prod.fst = painted.before.map Prod.fst := by
          rw [Painted.stroke, List.map_map]
          rfl
        simp only [Option.map_some, hkeys, image_setPixel color hi]
        congr 1
        by_cases hold : i ∈ painted.before.map Prod.fst
        · simp only [if_pos hold, Painted.stroke]
        · simp only [if_neg hold, Painted.stroke, List.map_append, List.map_cons, List.map_nil]
  · rw [if_neg hi, if_neg hi]

/-- **A stroke has noted the colors that its pixels had.** -/
theorem since_paintPixel {base : Image} {painted : Painted} (h : painted.stroke.Since base
    painted.canvas.image) (pixels : List (Tool × Nat)) :
    (pixels.foldl paintPixel painted).stroke.Since base
      (pixels.foldl paintPixel painted).canvas.image := by
  induction pixels generalizing painted with
  | nil => exact h
  | cons p pixels ih =>
      have hnext := h.paintPixel p.1.ink p.2
      rw [paintPixel_refines] at hnext
      exact ih hnext

end AsterYggdrasil.SkinPage
