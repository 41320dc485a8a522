import AsterYggdrasil.Renderer.Checked
import AsterYggdrasil.Renderer.Images

/-!
# Pixels by their coordinates

What an image shows is its dimensions and the pixel at every pair of natural coordinates inside
them.  Reads and writes inside of an image succeed, and two nested loops that write one pixel a
round paint a rectangle.
-/

namespace AsterYggdrasil.Renderer

theorem toNat_ofNat {n : Nat} (h : n < 2 ^ 32) : (UInt32.ofNat n).toNat = n :=
  UInt32.toNat_ofNat_of_lt' h

theorem ofNat_lt_iff {n : Nat} {a : UInt32} (h : n < 2 ^ 32) :
    UInt32.ofNat n < a ↔ n < a.toNat := by
  rw [UInt32.lt_iff_toNat_lt, toNat_ofNat h]

/-- The pixel at the coordinates. -/
def RgbaImage.pixelAt (image : RgbaImage) (x y : Nat) : Rgba :=
  image.pixels.getD (y * image.width.toNat + x) transparent

/-- Two images of the same dimensions. -/
def SameSize (image image' : RgbaImage) : Prop :=
  image'.width = image.width ∧ image'.height = image.height

/-- Row by row, coordinates inside of a rectangle have a place inside of it. -/
theorem place_lt {x y w h : Nat} (hx : x < w) (hy : y < h) : y * w + x < w * h :=
  calc y * w + x < y * w + w := by omega
    _ = (y + 1) * w := (Nat.succ_mul ..).symm
    _ ≤ h * w := Nat.mul_le_mul_right _ hy
    _ = w * h := Nat.mul_comm ..

/-- Different coordinates have different places. -/
theorem place_inj {x y x' y' w : Nat} (hx : x < w) (hx' : x' < w)
    (h : y * w + x = y' * w + x') : x = x' ∧ y = y' := by
  have hw : 0 < w := Nat.lt_of_le_of_lt (Nat.zero_le x) hx
  have hmod := congrArg (· % w) h
  have hdiv := congrArg (· / w) h
  simp only [Nat.mul_comm _ w, Nat.mul_add_mod, Nat.mod_eq_of_lt hx, Nat.mod_eq_of_lt hx']
    at hmod
  simp only [Nat.mul_comm _ w, Nat.mul_add_div hw, Nat.div_eq_of_lt hx, Nat.div_eq_of_lt hx',
    Nat.add_zero] at hdiv
  exact ⟨hmod, hdiv⟩

section Image

variable {image image' : RgbaImage} {x y : Nat}

/-- The coordinates of a pixel are inside, and are its place. -/
theorem inside_of_lt (hx : x < image.width.toNat) (hy : y < image.height.toNat) :
    (UInt32.ofNat x < image.width ∧ UInt32.ofNat y < image.height) ∧
      image.index (UInt32.ofNat x) (UInt32.ofNat y) = y * image.width.toNat + x := by
  have hx32 : x < 2 ^ 32 := Nat.lt_trans hx image.width.toNat_lt
  have hy32 : y < 2 ^ 32 := Nat.lt_trans hy image.height.toNat_lt
  refine ⟨⟨(ofNat_lt_iff hx32).mpr hx, (ofNat_lt_iff hy32).mpr hy⟩, ?_⟩
  rw [RgbaImage.index, toNat_ofNat hx32, toNat_ofNat hy32]

/-- **A read inside of the image** gives the pixel at the coordinates. -/
theorem getPixel_of_lt (hx : x < image.width.toNat) (hy : y < image.height.toNat) :
    image.getPixel (UInt32.ofNat x) (UInt32.ofNat y) = some (image.pixelAt x y) := by
  obtain ⟨hinside, hindex⟩ := inside_of_lt hx hy
  have hplace : y * image.width.toNat + x < image.pixels.length := by
    rw [image.filled]
    exact place_lt hx hy
  rw [RgbaImage.getPixel, if_pos hinside, hindex, RgbaImage.pixelAt,
    List.getElem?_eq_getElem hplace, List.getD_eq_getElem _ _ hplace]

/-- **A write inside of the image** changes the pixel at the coordinates and no other. -/
theorem putPixel_of_lt (color : Rgba) (hx : x < image.width.toNat)
    (hy : y < image.height.toNat) :
    ∃ image', image.putPixel (UInt32.ofNat x) (UInt32.ofNat y) color = some image' ∧
      SameSize image image' ∧
      ∀ x' y', x' < image.width.toNat →
        image'.pixelAt x' y' = if x' = x ∧ y' = y then color else image.pixelAt x' y' := by
  obtain ⟨hinside, hindex⟩ := inside_of_lt hx hy
  have hplace : y * image.width.toNat + x < image.pixels.length := by
    rw [image.filled]
    exact place_lt hx hy
  refine ⟨_, if_pos hinside, ⟨rfl, rfl⟩, fun x' y' hx' => ?_⟩
  simp only [RgbaImage.pixelAt, hindex, List.getD_eq_getElem?_getD, List.getElem?_modify]
  by_cases hsame : x' = x ∧ y' = y
  · obtain ⟨rfl, rfl⟩ := hsame
    rw [if_pos ⟨rfl, rfl⟩, List.getElem?_eq_getElem hplace]
    simp only [if_true, Option.map_eq_map, Option.map_some, Option.getD_some]
  · have hother : ¬y * image.width.toNat + x = y' * image.width.toNat + x' := by
      intro heq
      obtain ⟨rfl, rfl⟩ := place_inj hx hx' heq
      exact hsame ⟨rfl, rfl⟩
    rw [if_neg hsame]
    simp only [if_neg hother, Option.map_eq_map, Option.map_id']

/-- **Images are equal** where they have the same dimensions and show the same. -/
theorem ext_pixelAt (hsize : SameSize image image')
    (h : ∀ x y, x < image.width.toNat → y < image.height.toNat →
      image'.pixelAt x y = image.pixelAt x y) : image' = image := by
  obtain ⟨hwidth, hheight⟩ := hsize
  have hlength : image'.pixels.length = image.pixels.length := by
    rw [image'.filled, image.filled, hwidth, hheight]
  have hpixels : image'.pixels = image.pixels := by
    apply List.ext_getElem hlength
    intro i hi' hi
    have hi₂ := hi
    rw [image.filled] at hi₂
    have hw : 0 < image.width.toNat := Nat.pos_of_lt_mul_right hi₂
    have hx : i % image.width.toNat < image.width.toNat := Nat.mod_lt _ hw
    have hy : i / image.width.toNat < image.height.toNat := by
      rwa [Nat.div_lt_iff_lt_mul hw, Nat.mul_comm]
    have hplace : i / image.width.toNat * image.width.toNat + i % image.width.toNat = i := by
      rw [Nat.mul_comm]
      exact Nat.div_add_mod i _
    have hpixel := h _ _ hx hy
    simp only [RgbaImage.pixelAt, hwidth, hplace] at hpixel
    rwa [List.getD_eq_getElem _ _ hi', List.getD_eq_getElem _ _ hi] at hpixel
  cases image
  cases image'
  simp_all

/-- The pixels of a new image. -/
theorem pixelAt_fromPixel {width height : UInt32} {color : Rgba}
    (h : RgbaImage.fromPixel width height color = some image) (hx : x < width.toNat)
    (hy : y < height.toNat) : image.pixelAt x y = color := by
  unfold RgbaImage.fromPixel at h
  split at h
  · cases h
    simp only [RgbaImage.pixelAt]
    rw [List.getD_eq_getElem _ _ (by rw [List.length_replicate]; exact place_lt hx hy),
      List.getElem_replicate]
  · cases h

end Image

/-! ## Loops -/

/-- A loop from 0 takes the rounds of `times`. -/
theorem forRange_zero {σ : Type} (n : UInt32) (body : UInt32 → σ → Option σ) (s : σ) :
    forRange 0 n body s = times n.toNat (fun i => body (UInt32.ofNat i)) s := by
  rw [forRange, times, List.range_eq_range']
  rfl

/-- **Painting.**  Nested loops that write one pixel a round set the pixels of a rectangle. -/
theorem paint_ok {width height : Nat} {image : RgbaImage} (color : Nat → Nat → Rgba)
    (body : Nat → Nat → RgbaImage → Option RgbaImage) (hwidth : width ≤ image.width.toNat)
    (hheight : height ≤ image.height.toNat)
    (hbody : ∀ y < height, ∀ x < width, ∀ image,
      body y x image = image.putPixel (UInt32.ofNat x) (UInt32.ofNat y) (color x y)) :
    ∃ image', times height (fun y => times width (body y)) image = some image' ∧
      SameSize image image' ∧
      ∀ x y, x < image.width.toNat →
        image'.pixelAt x y = if x < width ∧ y < height then color x y else image.pixelAt x y := by
  obtain ⟨image', htimes, hsize, hpixels⟩ := times_paint RgbaImage.pixelAt (SameSize image)
    (fun x _ => x < image.width.toNat) 0 0 width height color body (fun y hy x hx t ht => by
      obtain ⟨t', hput, hsize, hpixels⟩ := putPixel_of_lt (color x y)
        (show x < t.width.toNat by rw [ht.1]; omega) (show y < t.height.toNat by rw [ht.2]; omega)
      refine ⟨t', (hbody y hy x hx t).trans hput, ⟨hsize.1.trans ht.1, hsize.2.trans ht.2⟩, ?_⟩
      intro u v hu
      rw [hpixels u v (by rwa [ht.1]), Nat.zero_add, Nat.zero_add])
    (⟨rfl, rfl⟩ : SameSize image image)
  refine ⟨image', htimes, hsize, fun x y hx => ?_⟩
  rw [hpixels x y hx]
  exact if_congr (by omega) rfl rfl

end AsterYggdrasil.Renderer
