import Mathlib

/-!
# Pixel buffers

The pixels of a square canvas are the bytes of an `ImageData`, four for each pixel.  The size of
a canvas is one that `skinScale` accepts.
-/

namespace AsterYggdrasil.SkinPixels

/-- The four bytes of a pixel. -/
structure Color where
  red : UInt8
  green : UInt8
  blue : UInt8
  alpha : UInt8
  deriving DecidableEq, Repr

/-- `skinScale`; what it throws is an error. -/
def skinScale (skinSize : Nat) : Except String Nat :=
  if skinSize % 64 = 0 ∧ 1 ≤ skinSize / 64 ∧ skinSize / 64 < 2 ^ 53 then .ok (skinSize / 64)
  else .error ("invalid_skin_size:" ++ toString skinSize)

/-- The sizes that `skinScale` accepts. -/
def ValidSize (skinSize : Nat) : Prop := ∃ scale, skinScale skinSize = .ok scale

/-- The pixel at an index. -/
def colorAt (pixels : List UInt8) (index : Nat) : Color :=
  ⟨pixels.getD (index * 4) 0, pixels.getD (index * 4 + 1) 0, pixels.getD (index * 4 + 2) 0,
    pixels.getD (index * 4 + 3) 0⟩

/-- A pixel is written. -/
def setColor (pixels : List UInt8) (index : Nat) (color : Color) : List UInt8 :=
  (((pixels.set (index * 4) color.red).set (index * 4 + 1) color.green).set (index * 4 + 2)
    color.blue).set (index * 4 + 3) color.alpha

@[simp] theorem length_setColor (pixels : List UInt8) (index : Nat) (color : Color) :
    (setColor pixels index color).length = pixels.length := by
  simp only [setColor, List.length_set]

/-- The bytes of a buffer in which one pixel was written. -/
theorem getElem?_setColor {pixels : List UInt8} {index : Nat} (color : Color)
    (h : index * 4 + 3 < pixels.length) (i : Nat) :
    (setColor pixels index color)[i]? =
      if i = index * 4 + 3 then some color.alpha
      else if i = index * 4 + 2 then some color.blue
      else if i = index * 4 + 1 then some color.green
      else if i = index * 4 then some color.red
      else pixels[i]? := by
  simp only [setColor, List.getElem?_set, List.length_set]
  split_ifs <;> first | rfl | omega

/-- The bytes of other pixels. -/
theorem getElem?_setColor_of_ne {pixels : List UInt8} {index : Nat} (color : Color)
    (h : index * 4 + 3 < pixels.length) {i : Nat} (hi : i / 4 ≠ index) :
    (setColor pixels index color)[i]? = pixels[i]? := by
  rw [getElem?_setColor color h, if_neg (by omega), if_neg (by omega), if_neg (by omega),
    if_neg (by omega)]

/-- **A written pixel has its color, and the others have theirs.** -/
theorem colorAt_setColor {pixels : List UInt8} {index : Nat} (color : Color)
    (h : index * 4 + 3 < pixels.length) (i : Nat) :
    colorAt (setColor pixels index color) i = if i = index then color else colorAt pixels i := by
  simp only [colorAt, List.getD_eq_getElem?_getD]
  by_cases hsame : i = index
  · subst hsame
    simp [getElem?_setColor color h]
  · rw [if_neg hsame, getElem?_setColor_of_ne color h (by omega),
      getElem?_setColor_of_ne color h (by omega), getElem?_setColor_of_ne color h (by omega),
      getElem?_setColor_of_ne color h (by omega)]

/-- A transparent buffer. -/
theorem colorAt_replicate (n i : Nat) : colorAt (List.replicate n 0) i = ⟨0, 0, 0, 0⟩ := by
  have hbyte : ∀ j : Nat, (List.replicate n (0 : UInt8)).getD j 0 = 0 := by
    intro j
    rw [List.getD_eq_getElem?_getD, List.getElem?_replicate]
    split <;> rfl
  simp only [colorAt, hbyte]

/-- **A buffer is its pixels.** -/
theorem ext_colorAt {pixels pixels' : List UInt8} {n : Nat} (hlength : pixels.length = n * 4)
    (hlength' : pixels'.length = n * 4) (h : ∀ i < n, colorAt pixels' i = colorAt pixels i) :
    pixels' = pixels := by
  apply List.ext_getElem (by rw [hlength, hlength'])
  intro i hi' hi
  have hindex : i / 4 < n := by omega
  have hcolor := h (i / 4) hindex
  simp only [colorAt, Color.mk.injEq] at hcolor
  obtain ⟨hred, hgreen, hblue, halpha⟩ := hcolor
  have hbyte : pixels'.getD i 0 = pixels.getD i 0 := by
    obtain hmod | hmod | hmod | hmod : i % 4 = 0 ∨ i % 4 = 1 ∨ i % 4 = 2 ∨ i % 4 = 3 := by omega
    · rwa [show i / 4 * 4 = i by omega] at hred
    · rwa [show i / 4 * 4 + 1 = i by omega] at hgreen
    · rwa [show i / 4 * 4 + 2 = i by omega] at hblue
    · rwa [show i / 4 * 4 + 3 = i by omega] at halpha
  rwa [List.getD_eq_getElem _ _ hi', List.getD_eq_getElem _ _ hi] at hbyte

theorem validSize_iff {skinSize : Nat} :
    ValidSize skinSize ↔ skinSize % 64 = 0 ∧ 1 ≤ skinSize / 64 ∧ skinSize / 64 < 2 ^ 53 := by
  unfold ValidSize skinScale
  constructor
  · rintro ⟨scale, h⟩
    split at h
    · next hvalid => exact hvalid
    · cases h
  · intro hvalid
    exact ⟨_, if_pos hvalid⟩

end AsterYggdrasil.SkinPixels
