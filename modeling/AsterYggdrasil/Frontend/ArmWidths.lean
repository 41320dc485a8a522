import AsterYggdrasil.Frontend.ModelRepacking

/-!
# From slim arms to wide ones and back

Two faces of a slim arm have the width of those of a wide one.  The others are three units wide
there and four here, and the columns that are sampled are rounded down both times.

**`slim_shown_again`**: one column out of three comes back, and the two others show the column
beside them.
-/

namespace AsterYggdrasil.SkinPixels

open Painting SkinEditor

/-! ## Samples -/

/-- Between faces of one length nothing is lost. -/
theorem sample_self {length i : Nat} (h : i < length) : sample length length i = i := by
  rw [sample, Nat.mul_div_cancel i (Nat.lt_of_le_of_lt (Nat.zero_le i) h)]
  omega

/-- The scale does not matter. -/
theorem sample_scaled {a b scale i : Nat} (hscale : 0 < scale) :
    sample (a * scale) (b * scale) i = min (a * scale - 1) (i * a / b) := by
  rw [sample, ← Nat.mul_assoc, Nat.mul_div_mul_right _ _ hscale]

/-- **Both samples.**  Three units are sampled from four, which were sampled from three. -/
theorem sample_sample {scale i : Nat} (h : i < 3 * scale) :
    sample (3 * scale) (4 * scale) (sample (4 * scale) (3 * scale) i) =
      if 3 ∣ i then i else i - 1 := by
  have hscale : 0 < scale := by omega
  rw [sample_scaled hscale, sample_scaled hscale]
  have hwide : min (4 * scale - 1) (i * 4 / 3) = i * 4 / 3 := by omega
  rw [hwide]
  obtain ⟨q, rfl | rfl | rfl⟩ : ∃ q, i = 3 * q ∨ i = 3 * q + 1 ∨ i = 3 * q + 2 :=
    ⟨i / 3, by omega⟩
  · rw [if_pos (by omega)]
    omega
  · rw [if_neg (by omega)]
    omega
  · rw [if_neg (by omega)]
    omega

/-! ## The faces -/

/-- A face that is as wide for both models. -/
def SkinFace.Beside (face : SkinFace) : Prop := face = .right ∨ face = .left

instance (face : SkinFace) : Decidable face.Beside := inferInstanceAs (Decidable (_ ∨ _))

/-- The column of a face of a slim arm that comes back. -/
def shownColumn (face : SkinFace) (x : Nat) : Nat := if face.Beside ∨ 3 ∣ x then x else x - 1

section Faces

variable {scale : Nat} {region region' : SkinFaceRegion}

/-- The dimensions of a face in both models. -/
theorem arm_dimensions (h : region ∈ armFaces .slim scale) (h' : region' ∈ armFaces .default scale)
    (hsame : region'.Corresponds region) :
    region'.height = region.height ∧ (region.face.Beside → region'.width = region.width) ∧
      (¬region.face.Beside → region.width = 3 * scale ∧ region'.width = 4 * scale) := by
  have hunit : ∀ region ∈ armFaces .slim 1, ∀ region' ∈ armFaces .default 1,
      region'.Corresponds region →
      region'.height = region.height ∧ (region.face.Beside → region'.width = region.width) ∧
        (¬region.face.Beside → region.width = 3 ∧ region'.width = 4) := by
    decide +kernel
  rw [armFaces_scale] at h h'
  obtain ⟨unit, hmem, rfl⟩ := List.mem_map.mp h
  obtain ⟨unit', hmem', rfl⟩ := List.mem_map.mp h'
  obtain ⟨hheight, hbeside, hother⟩ := hunit unit hmem unit' hmem' hsame
  refine ⟨congrArg (· * scale) hheight, fun hface => congrArg (· * scale) (hbeside hface),
    fun hface => ?_⟩
  obtain ⟨hslim, hdefault⟩ := hother hface
  exact ⟨congrArg (· * scale) hslim, congrArg (· * scale) hdefault⟩

theorem SkinFaceRegion.Corresponds.trans {region'' : SkinFaceRegion}
    (h : region.Corresponds region') (h' : region'.Corresponds region'') :
    region.Corresponds region'' :=
  ⟨h.1.trans h'.1, h.2.1.trans h'.2.1, h.2.2.trans h'.2.2⟩

/-- **What both copies make of a face.** -/
theorem shown_again {skinSize : Nat} {data wide data' : List UInt8}
    (hwiden : Repacked .slim .default skinSize scale data wide)
    (hnarrow : Repacked .default .slim skinSize scale wide data')
    (hregion : region ∈ armFaces .slim scale) {x y : Nat} (hx : x < region.width)
    (hy : y < region.height) :
    canvasAt data' skinSize (region.x + x) (region.y + y) =
      canvasAt data skinSize (region.x + shownColumn region.face x) (region.y + y) := by
  obtain ⟨region', hregion', hsame, hcopied⟩ := hnarrow.copied region hregion
  obtain ⟨source, hsource, hsame', hcopied'⟩ := hwiden.copied region' hregion'
  obtain rfl : source = region :=
    armFaces_unique source hsource region hregion (hsame'.trans hsame)
  obtain ⟨hcolumn, hrow, hpixel⟩ := hcopied x hx y hy
  obtain ⟨-, -, hpixel'⟩ := hcopied' _ hcolumn _ hrow
  obtain ⟨hheight, hbeside, hother⟩ := arm_dimensions hsource hregion' hsame
  have hy' : sample source.height region'.height (sample region'.height source.height y) = y := by
    rw [hheight, sample_self hy, sample_self hy]
  have hx' : sample source.width region'.width (sample region'.width source.width x) =
      shownColumn source.face x := by
    by_cases hface : source.face.Beside
    · rw [hbeside hface, sample_self hx, sample_self hx, shownColumn, if_pos (Or.inl hface)]
    · obtain ⟨hslim, hdefault⟩ := hother hface
      rw [hslim] at hx
      rw [hslim, hdefault, sample_sample hx, shownColumn]
      exact if_congr (by simp [hface]) rfl rfl
  rw [hpixel, hpixel', hx', hy']

end Faces

/-! ## The round trip -/

/-- **Widening and narrowing.**  The columns of the slim arms that come back. -/
theorem slim_shown_again {skinSize scale : Nat} {data : List UInt8}
    (hsize : skinScale skinSize = .ok scale) (hlength : data.length = skinSize * skinSize * 4) :
    ∃ wide data', repackSkinModelPixels data .slim .default skinSize = some (.ok wide) ∧
      repackSkinModelPixels wide .default .slim skinSize = some (.ok data') ∧
      ∀ region ∈ armFaces .slim scale, ∀ x < region.width, ∀ y < region.height,
        canvasAt data' skinSize (region.x + x) (region.y + y) =
          canvasAt data skinSize (region.x + shownColumn region.face x) (region.y + y) := by
  have hne : MinecraftTextureModel.slim ≠ .default := by decide
  obtain ⟨wide, hwide, hwiden⟩ := repacks hne hsize hlength
  obtain ⟨data', hdata', hnarrow⟩ := repacks hne.symm hsize (hwiden.length.trans hlength)
  exact ⟨wide, data', hwide, hdata', fun region hregion x hx y hy =>
    shown_again hwiden hnarrow hregion hx hy⟩

/-- A skin of which one pixel is white. -/
def whitePixel (x y : Nat) : List UInt8 :=
  setColor (List.replicate (64 * 64 * 4) 0) (y * 64 + x) ⟨255, 255, 255, 255⟩

theorem slim_shown_again_white :
    ∃ wide data', repackSkinModelPixels (whitePixel 46 20) .slim .default 64 = some (.ok wide) ∧
      repackSkinModelPixels wide .default .slim 64 = some (.ok data') ∧
      ∀ region ∈ armFaces .slim 1, ∀ x < region.width, ∀ y < region.height,
        canvasAt data' 64 (region.x + x) (region.y + y) =
          canvasAt (whitePixel 46 20) 64 (region.x + shownColumn region.face x) (region.y + y) :=
  slim_shown_again rfl ((length_setColor ..).trans List.length_replicate)

/-- **The last column of a slim arm is lost.** -/
theorem lastColumn_lost :
    ¬∀ (skinSize scale : Nat) (data wide data' : List UInt8), skinScale skinSize = .ok scale →
      data.length = skinSize * skinSize * 4 →
      repackSkinModelPixels data .slim .default skinSize = some (.ok wide) →
      repackSkinModelPixels wide .default .slim skinSize = some (.ok data') →
      ∀ region ∈ armFaces .slim scale, ∀ x < region.width, ∀ y < region.height,
        canvasAt data' skinSize (region.x + x) (region.y + y) =
          canvasAt data skinSize (region.x + x) (region.y + y) := by
  intro hall
  have hlength : (whitePixel 46 20).length = 64 * 64 * 4 :=
    (length_setColor ..).trans List.length_replicate
  have hne : MinecraftTextureModel.slim ≠ .default := by decide
  have hsize : skinScale 64 = .ok 1 := rfl
  obtain ⟨wide, hwide, hwiden⟩ := repacks hne hsize hlength
  obtain ⟨data', hdata', hnarrow⟩ := repacks hne.symm hsize (hwiden.length.trans hlength)
  -- the front of the right arm, of which the last column has the white pixel
  have hfront : (⟨.front, .base, .rightArm, 44, 20, 3, 12⟩ : SkinFaceRegion) ∈
      armFaces .slim 1 := by decide
  have hclaimed := hall 64 1 _ wide data' hsize hlength hwide hdata' _ hfront 2 (by decide) 0
    (by decide)
  have hcolumn : 2 < (3 : Nat) := by decide
  have hrow : 0 < (12 : Nat) := by decide
  have hshown := shown_again hwiden hnarrow hfront hcolumn hrow
  have hplace : (20 * 64 + 46) * 4 + 3 < (List.replicate (64 * 64 * 4) (0 : UInt8)).length := by
    rw [List.length_replicate]
    decide
  have hwhite : ∀ i, colorAt (whitePixel 46 20) i =
      if i = 20 * 64 + 46 then ⟨255, 255, 255, 255⟩
      else colorAt (List.replicate (64 * 64 * 4) 0) i := colorAt_setColor _ hplace
  have hcolumns : colorAt (whitePixel 46 20) (20 * 64 + 45) =
      colorAt (whitePixel 46 20) (20 * 64 + 46) := hshown.symm.trans hclaimed
  rw [hwhite, hwhite, if_neg (by decide), if_pos rfl, colorAt_replicate] at hcolumns
  exact absurd hcolumns (by decide)

end AsterYggdrasil.SkinPixels
