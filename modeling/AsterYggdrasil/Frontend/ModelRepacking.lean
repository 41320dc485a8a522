import AsterYggdrasil.Frontend.SkinRegions
import AsterYggdrasil.Renderer.Pixels

/-!
# Repacking a skin for another model

`repackSkinModelPixels` clears the blocks of the arms and copies each face of the arms of one
model to where the other has it, from a copy of the pixels made before.  An access outside of the
buffer is `none`.  No buffer has `2 ^ 53` bytes, so that products are exact and quotients round
down to those of natural numbers.

**`repacking_touches_arms`**: all accesses are inside, nothing changes outside of the blocks, and inside every
face shows a face of the same kind.
-/

namespace AsterYggdrasil.SkinPixels

open Painting Renderer SkinEditor

/-- A pixel is read. -/
def readPixel (pixels : List UInt8) (index : Nat) : Option Color :=
  if index * 4 + 3 < pixels.length then some (colorAt pixels index) else none

/-- A pixel is written. -/
def writePixel (pixels : List UInt8) (index : Nat) (color : Color) : Option (List UInt8) :=
  if index * 4 + 3 < pixels.length then some (setColor pixels index color) else none

/-- Transparent black. -/
def cleared : Color := ⟨0, 0, 0, 0⟩

/-- `clear`. -/
def clear (skinSize : Nat) (rect : SkinRect) (destination : List UInt8) : Option (List UInt8) :=
  times rect.height (fun offsetY => times rect.width fun offsetX destination =>
    writePixel destination ((rect.y + offsetY) * skinSize + rect.x + offsetX) cleared) destination

/-- The row or column of a face that is copied to one of another face. -/
def sample (sourceLength destinationLength i : Nat) : Nat :=
  min (sourceLength - 1) (i * sourceLength / destinationLength)

/-- `copyFace`. -/
def copyFace (source : List UInt8) (sourceRect destinationRect : SkinRect) (skinSize : Nat)
    (destination : List UInt8) : Option (List UInt8) :=
  times destinationRect.height (fun y =>
    let sampleY := sourceRect.y + sample sourceRect.height destinationRect.height y
    times destinationRect.width fun x destination => do
      let sampleX := sourceRect.x + sample sourceRect.width destinationRect.width x
      let color ← readPixel source (sampleY * skinSize + sampleX)
      writePixel destination ((destinationRect.y + y) * skinSize + destinationRect.x + x) color)
    destination

/-- The faces of one layer are copied. -/
def copyLayer (source : List UInt8) (fromModel toModel : MinecraftTextureModel)
    (scale skinSize : Nat) (destination : List UInt8) (layer : SkinEditorLayer) :
    Option (List UInt8) :=
  let fromRegions := armRegions fromModel layer scale
  let toRegions := armRegions toModel layer scale
  times fromRegions.length (fun index destination => do
    let fromRegion ← fromRegions[index]?
    let toRegion ← toRegions[index]?
    copyFace source fromRegion.rect toRegion.rect skinSize destination) destination

/-- The blocks of the arms are cleared, and the faces are copied. -/
def repackArms (source : List UInt8) (fromModel toModel : MinecraftTextureModel)
    (scale skinSize : Nat) (destination : List UInt8) : Option (List UInt8) := do
  let destination ← armBlocks.foldlM
    (fun destination rect => clear skinSize (rect.scale scale) destination) destination
  [SkinEditorLayer.base, SkinEditorLayer.overlay].foldlM
    (copyLayer source fromModel toModel scale skinSize) destination

/-- `repackSkinModelPixels`: what it throws, or the pixels then. -/
def repackSkinModelPixels (data : List UInt8) (fromModel toModel : MinecraftTextureModel)
    (skinSize : Nat) : Option (Except String (List UInt8)) :=
  if fromModel = toModel then some (.ok data)
  else
    match skinScale skinSize with
    | .error error => some (.error error)
    | .ok scale =>
        if data.length ≠ skinSize * skinSize * 4 then some (.error "invalid_skin_buffer")
        else (repackArms data fromModel toModel scale skinSize data).map .ok

/-! ## Canvases -/

/-- The pixel at the coordinates. -/
def canvasAt (pixels : List UInt8) (skinSize x y : Nat) : Color :=
  colorAt pixels (y * skinSize + x)

/-- The pixels of a canvas. -/
def canvas (skinSize : Nat) : View (List UInt8) Color where
  look pixels := canvasAt pixels skinSize
  valid pixels := pixels.length = skinSize * skinSize * 4
  inside x y := x < skinSize ∧ y < skinSize

section Canvas

variable {skinSize : Nat} {pixels : List UInt8} {x y : Nat}

/-- The pixels of a canvas are inside of its buffer. -/
theorem index_lt (hlength : pixels.length = skinSize * skinSize * 4) (hx : x < skinSize)
    (hy : y < skinSize) : (y * skinSize + x) * 4 + 3 < pixels.length := by
  have hplace : y * skinSize + x < skinSize * skinSize := place_lt hx hy
  omega

theorem readPixel_ok (hlength : pixels.length = skinSize * skinSize * 4) (hx : x < skinSize)
    (hy : y < skinSize) :
    readPixel pixels (y * skinSize + x) = some (canvasAt pixels skinSize x y) :=
  if_pos (index_lt hlength hx hy)

/-- **A write inside of a canvas** changes the pixel at the coordinates and no other. -/
theorem writePixel_ok (color : Color) (hlength : pixels.length = skinSize * skinSize * 4)
    (hx : x < skinSize) (hy : y < skinSize) :
    ∃ pixels', writePixel pixels (y * skinSize + x) color = some pixels' ∧
      pixels'.length = skinSize * skinSize * 4 ∧
      ∀ u v, u < skinSize ∧ v < skinSize → canvasAt pixels' skinSize u v =
        if u = x ∧ v = y then color else canvasAt pixels skinSize u v := by
  have hindex := index_lt hlength hx hy
  refine ⟨_, if_pos hindex, (length_setColor ..).trans hlength, fun u v huv => ?_⟩
  rw [canvasAt, colorAt_setColor color hindex]
  have hsame : v * skinSize + u = y * skinSize + x ↔ u = x ∧ v = y := by
    constructor
    · exact place_inj huv.1 hx
    · rintro ⟨rfl, rfl⟩
      rfl
  exact if_congr hsame rfl rfl

end Canvas

/-! ## What is painted -/

/-- A rectangle inside of a canvas. -/
def OnCanvas (skinSize : Nat) (rect : SkinRect) : Prop := rect.Within ⟨0, 0, skinSize, skinSize⟩

theorem OnCanvas.inside {skinSize x y : Nat} {rect : SkinRect} (h : OnCanvas skinSize rect)
    (hx : x < rect.width) (hy : y < rect.height) :
    rect.x + x < skinSize ∧ rect.y + y < skinSize := by
  obtain ⟨-, hright, -, hbottom⟩ := h
  dsimp only at hright hbottom
  omega

/-- The rows and columns that are sampled are those of the source. -/
theorem sample_lt {sourceLength : Nat} (destinationLength i : Nat) (h : 0 < sourceLength) :
    sample sourceLength destinationLength i < sourceLength := by
  unfold sample
  omega

/-- A cleared rectangle. -/
def clearing (rect : SkinRect) : Paint Color := ⟨rect, fun _ _ => cleared⟩

/-- A copied face. -/
def copying (source : List UInt8) (skinSize : Nat) (sourceRect destinationRect : SkinRect) :
    Paint Color :=
  ⟨destinationRect, fun x y => canvasAt source skinSize
    (sourceRect.x + sample sourceRect.width destinationRect.width x)
    (sourceRect.y + sample sourceRect.height destinationRect.height y)⟩

section Paintings

variable {skinSize : Nat} {source : List UInt8} {rect sourceRect destinationRect : SkinRect}

theorem paints_clear (h : OnCanvas skinSize rect) :
    Paints (canvas skinSize) (clear skinSize rect) [clearing rect] := by
  apply paints_rect
  intro y hy x hx pixels hpixels
  have hinside := h.inside hx hy
  obtain ⟨pixels', hwrite, hlength, hlook⟩ :=
    writePixel_ok cleared hpixels hinside.1 hinside.2
  refine ⟨pixels', ?_, hlength, hlook⟩
  rwa [Nat.add_assoc]

theorem paints_copyFace (hsource : source.length = skinSize * skinSize * 4)
    (hfrom : OnCanvas skinSize sourceRect) (hto : OnCanvas skinSize destinationRect)
    (hpos : 0 < sourceRect.width ∧ 0 < sourceRect.height) :
    Paints (canvas skinSize) (copyFace source sourceRect destinationRect skinSize)
      [copying source skinSize sourceRect destinationRect] := by
  apply paints_rect
  intro y hy x hx pixels hpixels
  have hinside := hto.inside hx hy
  have hsampled := hfrom.inside (sample_lt destinationRect.width x hpos.1)
    (sample_lt destinationRect.height y hpos.2)
  have hread := readPixel_ok hsource hsampled.1 hsampled.2
  obtain ⟨pixels', hwrite, hlength, hlook⟩ :=
    writePixel_ok (canvasAt source skinSize _ _) hpixels hinside.1 hinside.2
  refine ⟨pixels', ?_, hlength, hlook⟩
  dsimp only
  rw [hread, Nat.add_assoc]
  exact hwrite

end Paintings

section Repacking

variable {fromModel toModel : MinecraftTextureModel} {scale : Nat} {source : List UInt8}

theorem armFaces_onCanvas {model : MinecraftTextureModel} {region : SkinFaceRegion}
    (h : region ∈ armFaces model scale) : OnCanvas (64 * scale) region.rect := by
  obtain ⟨block, hblock, hwithin⟩ := armFaces_within region h
  exact hwithin.trans (armBlocks_within scale block hblock)

/-- The paintings of the faces. -/
def facePaintings (source : List UInt8) (scale : Nat)
    (pairs : List (SkinFaceRegion × SkinFaceRegion)) : List (Paint Color) :=
  pairs.map fun p => copying source (64 * scale) p.1.rect p.2.rect

theorem paints_copyLayer (hscale : 0 < scale)
    (hsource : source.length = 64 * scale * (64 * scale) * 4) (layer : SkinEditorLayer) :
    Paints (canvas (64 * scale))
      (fun s => copyLayer source fromModel toModel scale (64 * scale) s layer)
      (facePaintings source scale
        ((armRegions fromModel layer scale).zip (armRegions toModel layer scale))) := by
  have hlength : (armRegions fromModel layer scale).length =
      (armRegions toModel layer scale).length := by
    rw [length_armRegions, length_armRegions]
  have hmem : ∀ {model region}, region ∈ armRegions model layer scale →
      region ∈ armFaces model scale := by
    intro model region hregion
    refine List.mem_flatMap.mpr ⟨layer, ?_, hregion⟩
    cases layer <;> decide
  have hloop : (fun s => copyLayer source fromModel toModel scale (64 * scale) s layer) =
      fun s => ((armRegions fromModel layer scale).zip (armRegions toModel layer scale)).foldlM
        (fun s p => copyFace source p.1.rect p.2.rect (64 * scale) s) s := by
    funext s
    exact times_zip hlength
  rw [hloop, facePaintings, List.map_eq_flatMap]
  apply paints_foldlM
  rintro ⟨region, region'⟩ hp
  have hfrom := hmem (List.of_mem_zip hp).1
  have hto := hmem (List.of_mem_zip hp).2
  exact paints_copyFace hsource (armFaces_onCanvas hfrom) (armFaces_onCanvas hto)
    (armFaces_pos hscale region hfrom)

/-- The paintings of the blocks. -/
def blockPaintings (scale : Nat) : List (Paint Color) :=
  armBlocks.map fun block => clearing (block.scale scale)

/-- **The blocks are painted, and then the faces.** -/
theorem paints_repackArms (fromModel toModel : MinecraftTextureModel) (hscale : 0 < scale)
    (hsource : source.length = 64 * scale * (64 * scale) * 4) :
    Paints (canvas (64 * scale)) (repackArms source fromModel toModel scale (64 * scale))
      (blockPaintings scale ++
        facePaintings source scale (armPairs fromModel toModel scale)) := by
  have hblocks : Paints (canvas (64 * scale))
      (fun s => armBlocks.foldlM (fun s rect => clear (64 * scale) (rect.scale scale) s) s)
      (blockPaintings scale) := by
    rw [blockPaintings, List.map_eq_flatMap]
    apply paints_foldlM
    intro block hblock
    exact paints_clear (armBlocks_within scale block hblock)
  have hfaces : Paints (canvas (64 * scale))
      (fun s => [SkinEditorLayer.base, SkinEditorLayer.overlay].foldlM
        (copyLayer source fromModel toModel scale (64 * scale)) s)
      (facePaintings source scale (armPairs fromModel toModel scale)) := by
    rw [facePaintings, armPairs, List.map_flatMap]
    apply paints_foldlM
    intro layer _
    exact paints_copyLayer hscale hsource layer
  exact hblocks.bind hfaces

end Repacking

/-! ## What changes -/

/-- What repacking makes of the pixels of a canvas. -/
structure Repacked (fromModel toModel : MinecraftTextureModel) (skinSize scale : Nat)
    (data data' : List UInt8) : Prop where
  length : data'.length = data.length
  outside : ∀ u v, u < skinSize → v < skinSize →
    (∀ block ∈ armBlocks, ¬(block.scale scale).Contains u v) →
      canvasAt data' skinSize u v = canvasAt data skinSize u v
  within : ∀ region ∈ armFaces toModel scale, ∃ block ∈ armBlocks,
    region.rect.Within (block.scale scale)
  apart : (armFaces toModel scale).Pairwise fun region region' =>
    ∀ u v, ¬(region.rect.Contains u v ∧ region'.rect.Contains u v)
  /-- A face shows the rows and columns of the corresponding face. -/
  copied : ∀ region' ∈ armFaces toModel scale, ∃ region ∈ armFaces fromModel scale,
    region.Corresponds region' ∧ ∀ x < region'.width, ∀ y < region'.height,
      sample region.width region'.width x < region.width ∧
      sample region.height region'.height y < region.height ∧
      canvasAt data' skinSize (region'.x + x) (region'.y + y) =
        canvasAt data skinSize (region.x + sample region.width region'.width x)
          (region.y + sample region.height region'.height y)
  transparent : ∀ block ∈ armBlocks, ∀ u v, (block.scale scale).Contains u v →
    (∀ region ∈ armFaces toModel scale, ¬region.rect.Contains u v) →
      canvasAt data' skinSize u v = cleared

theorem skinScale_eq {skinSize scale : Nat} (h : skinScale skinSize = .ok scale) :
    0 < scale ∧ skinSize = 64 * scale := by
  unfold skinScale at h
  split at h
  · cases h
    omega
  · cases h

section Changes

variable {fromModel toModel : MinecraftTextureModel} {scale u v : Nat} {source : List UInt8}

/-- The faces that are painted are those of the other model. -/
theorem facePaintings_rect (source : List UInt8) (fromModel toModel : MinecraftTextureModel)
    (scale : Nat) :
    (facePaintings source scale (armPairs fromModel toModel scale)).map Paint.rect =
      (armFaces toModel scale).map SkinFaceRegion.rect := by
  rw [facePaintings, ← map_snd_armPairs fromModel toModel, List.map_map, List.map_map]
  rfl

/-- Paintings of blocks show nothing. -/
theorem overpaint_blocks {block : SkinRect} (hblock : block ∈ armBlocks)
    (h : (block.scale scale).Contains u v) (look : Nat → Nat → Color) :
    overpaint (blockPaintings scale) look u v = cleared := by
  have hapart : armBlocks.Pairwise Rect.Apart := by decide
  have hpaintings : (blockPaintings scale).Pairwise fun p q => p.rect.Apart q.rect := by
    rw [blockPaintings, List.pairwise_map]
    exact hapart.imp fun h => h.scale scale
  have hmem : clearing (block.scale scale) ∈ blockPaintings scale := List.mem_map_of_mem hblock
  exact overpaint_of_mem hpaintings hmem h

/-- Places outside of the faces are not painted. -/
theorem overpaint_faces_of_not_contains
    (h : ∀ region ∈ armFaces toModel scale, ¬region.rect.Contains u v)
    (look : Nat → Nat → Color) :
    overpaint (facePaintings source scale (armPairs fromModel toModel scale)) look u v =
      look u v := by
  apply overpaint_of_not_contains
  intro p hp
  have hrect : p.rect ∈ (armFaces toModel scale).map SkinFaceRegion.rect :=
    facePaintings_rect source fromModel toModel scale ▸ List.mem_map_of_mem hp
  obtain ⟨region, hregion, heq⟩ := List.mem_map.mp hrect
  rw [← heq]
  exact h region hregion

/-- **A face shows the face that was copied to it.** -/
theorem overpaint_faces {p : SkinFaceRegion × SkinFaceRegion}
    (hp : p ∈ armPairs fromModel toModel scale) {x y : Nat} (hx : x < p.2.width)
    (hy : y < p.2.height) (look : Nat → Nat → Color) :
    overpaint (facePaintings source scale (armPairs fromModel toModel scale)) look
        (p.2.x + x) (p.2.y + y) =
      canvasAt source (64 * scale) (p.1.x + sample p.1.width p.2.width x)
        (p.1.y + sample p.1.height p.2.height y) := by
  have hapart : (facePaintings source scale (armPairs fromModel toModel scale)).Pairwise
      fun p q => p.rect.Apart q.rect := by
    rw [← List.pairwise_map, facePaintings_rect, List.pairwise_map]
    exact armFaces_apart
  have hcontains : p.2.rect.Contains (p.2.x + x) (p.2.y + y) := by
    unfold Rect.Contains
    dsimp only [SkinFaceRegion.rect]
    omega
  have hmem : copying source (64 * scale) p.1.rect p.2.rect ∈
      facePaintings source scale (armPairs fromModel toModel scale) := List.mem_map_of_mem hp
  rw [overpaint_of_mem hapart hmem hcontains]
  simp only [copying, SkinFaceRegion.rect, Nat.add_sub_cancel_left]

end Changes

/-- **Repacking** succeeds, changes nothing outside of the blocks of the arms, and copies faces to
faces that are apart. -/
theorem repacks {fromModel toModel : MinecraftTextureModel} {skinSize scale : Nat}
    {data : List UInt8} (hmodel : fromModel ≠ toModel) (hsize : skinScale skinSize = .ok scale)
    (hlength : data.length = skinSize * skinSize * 4) :
    ∃ data', repackSkinModelPixels data fromModel toModel skinSize = some (.ok data') ∧
      Repacked fromModel toModel skinSize scale data data' := by
  obtain ⟨hscale, rfl⟩ := skinScale_eq hsize
  obtain ⟨data', hrepacked, hlength', hlook⟩ :=
    paints_repackArms fromModel toModel hscale hlength data hlength
  have hshown : ∀ u v, u < 64 * scale → v < 64 * scale → canvasAt data' (64 * scale) u v =
      overpaint (facePaintings data scale (armPairs fromModel toModel scale))
        (overpaint (blockPaintings scale) (canvasAt data (64 * scale))) u v := by
    intro u v hu hv
    rw [← overpaint_append]
    exact hlook u v ⟨hu, hv⟩
  have hresult : repackSkinModelPixels data fromModel toModel (64 * scale) = some (.ok data') := by
    simp only [repackSkinModelPixels, if_neg hmodel, hsize, hlength, ne_eq, not_true_eq_false,
      if_false, hrepacked, Option.map_some]
  refine ⟨data', hresult, hlength'.trans hlength.symm, ?_, armFaces_within, ?_, ?_, ?_⟩
  · -- outside of the blocks there is no face either
    intro u v hu hv houtside
    have hfaces : ∀ region ∈ armFaces toModel scale, ¬region.rect.Contains u v := by
      intro region hregion hcontains
      obtain ⟨block, hblock, hwithin⟩ := armFaces_within region hregion
      exact houtside block hblock (hwithin.contains hcontains)
    rw [hshown u v hu hv, overpaint_faces_of_not_contains hfaces]
    apply overpaint_of_not_contains
    intro p hp
    obtain ⟨block, hblock, rfl⟩ := List.mem_map.mp hp
    exact houtside block hblock
  · exact armFaces_apart.imp fun hapart u v h => hapart.not_contains h.1 h.2
  · intro region' hregion'
    rw [← map_snd_armPairs fromModel toModel] at hregion'
    obtain ⟨p, hp, rfl⟩ := List.mem_map.mp hregion'
    have hfrom : p.1 ∈ armFaces fromModel scale :=
      map_fst_armPairs fromModel toModel scale ▸ List.mem_map_of_mem hp
    have hto : p.2 ∈ armFaces toModel scale :=
      map_snd_armPairs fromModel toModel scale ▸ List.mem_map_of_mem hp
    obtain ⟨hwidth, hheight⟩ := armFaces_pos hscale p.1 hfrom
    refine ⟨p.1, hfrom, armPairs_corresponds p hp, fun x hx y hy =>
      ⟨sample_lt _ x hwidth, sample_lt _ y hheight, ?_⟩⟩
    obtain ⟨hu, hv⟩ := (armFaces_onCanvas hto).inside hx hy
    exact (hshown _ _ hu hv).trans (overpaint_faces hp hx hy _)
  · intro block hblock u v hcontains hfaces
    have hinside := (armBlocks_within scale block hblock).contains hcontains
    obtain ⟨-, hu, -, hv⟩ := hinside
    rw [hshown u v (by simpa using hu) (by simpa using hv),
      overpaint_faces_of_not_contains hfaces]
    exact overpaint_blocks hblock hcontains _

/-- **Repacking a canvas of any valid size** touches only the arms. -/
theorem repacking_touches_arms {fromModel toModel : MinecraftTextureModel} {skinSize : Nat}
    {data : List UInt8} (hmodel : fromModel ≠ toModel) (hsize : ValidSize skinSize)
    (hlength : data.length = skinSize * skinSize * 4) :
    ∃ data', repackSkinModelPixels data fromModel toModel skinSize = some (.ok data') ∧
      Repacked fromModel toModel skinSize (skinSize / 64) data data' := by
  obtain ⟨scale, hscale⟩ := hsize
  obtain ⟨-, hmultiple⟩ := skinScale_eq hscale
  have hdiv : skinSize / 64 = scale := by omega
  rw [hdiv]
  exact repacks hmodel hscale hlength

/-- The pixel of a skin whose right arm is red and whose left arm is green. -/
def armColor (x y : Nat) : List UInt8 :=
  if 40 ≤ x ∧ x < 56 ∧ 16 ≤ y ∧ y < 32 then [255, 0, 0, 255]
  else if 32 ≤ x ∧ x < 48 ∧ 48 ≤ y ∧ y < 64 then [0, 255, 0, 255]
  else [0, 0, 0, 0]

/-- This skin, 64 pixels wide. -/
def colouredArms : List UInt8 :=
  (List.range (64 * 64)).flatMap fun i => armColor (i % 64) (i / 64)

theorem length_colouredArms : colouredArms.length = 64 * 64 * 4 := by
  have hpixel : ∀ x y, (armColor x y).length = 4 := by
    intro x y
    unfold armColor
    split_ifs <;> rfl
  have hpixels : ∀ i ∈ List.range (64 * 64), (armColor (i % 64) (i / 64)).length = 4 :=
    fun i _ => hpixel (i % 64) (i / 64)
  unfold colouredArms
  rw [List.length_flatMap, List.map_congr_left hpixels, List.map_const', List.sum_replicate_nat,
    List.length_range]

/-- Its arms are repacked. -/
theorem repacking_touches_coloured_arms :
    ∃ data', repackSkinModelPixels colouredArms .default .slim 64 = some (.ok data') ∧
      Repacked .default .slim 64 (64 / 64) colouredArms data' :=
  repacking_touches_arms (by decide) ⟨1, rfl⟩ length_colouredArms

end AsterYggdrasil.SkinPixels
