import AsterYggdrasil.Texture.Entities
import Mathlib

/-!
# Textures: dimensions

The dimensions that are accepted for a skin or a cape are the multiples of one of two units, and
the number of pixels is limited.  Dimensions are `u32`s, the limit is a `u64`.
-/

namespace AsterYggdrasil.Textures

/-- `is_multiple_texture_size`. -/
def isMultipleTextureSize (width height unitWidth unitHeight : UInt32) : Bool :=
  unitWidth ≤ width && unitHeight ≤ height && width % unitWidth == 0 &&
    height % unitHeight == 0 && width / unitWidth == height / unitHeight

/-- The text of dimensions in the messages. -/
def dimensionsText (width height : UInt32) : String := toString width ++ "x" ++ toString height

/-- `validate_texture_dimensions`. -/
def validateTextureDimensions (textureType : TextureType) (width height : UInt32) :
    Except AsterError Unit :=
  let valid := match textureType with
    | .skin => isMultipleTextureSize width height 64 32 || isMultipleTextureSize width height 64 64
    | .cape => isMultipleTextureSize width height 64 32 || isMultipleTextureSize width height 22 17
  if valid then .ok ()
  else .error (.validation none
    ("invalid " ++ textureType.asStr ++ " texture dimensions: " ++ dimensionsText width height))

/-- `validate_texture_pixel_limit`; the product of two `u32`s is a `u64`. -/
def validateTexturePixelLimit (width height : UInt32) (maxPixels : UInt64) :
    Except AsterError Unit :=
  let pixels := width.toNat * height.toNat
  if 2 ^ 64 ≤ pixels then .error (.validation none "texture dimensions are too large")
  else if maxPixels.toNat < pixels then
    .error (.validation none ("texture dimensions exceed " ++ toString maxPixels ++ " pixels: " ++
      dimensionsText width height))
  else .ok ()

/-- Dimensions that are `k` units. -/
def MultipleOf (k unitWidth unitHeight : Nat) (width height : UInt32) : Prop :=
  0 < k ∧ width.toNat = unitWidth * k ∧ height.toNat = unitHeight * k

/-- **A multiple texture size is a positive number of units.** -/
theorem isMultipleTextureSize_iff (width height : UInt32) {unitWidth unitHeight : UInt32}
    (hwidth : 0 < unitWidth.toNat) (hheight : 0 < unitHeight.toNat) :
    isMultipleTextureSize width height unitWidth unitHeight = true ↔
      ∃ k, MultipleOf k unitWidth.toNat unitHeight.toNat width height := by
  have hzero : (0 : UInt32).toNat = 0 := rfl
  simp only [isMultipleTextureSize, Bool.and_eq_true, decide_eq_true_eq, beq_iff_eq,
    UInt32.le_iff_toNat_le, ← UInt32.toNat_inj, UInt32.toNat_mod, UInt32.toNat_div, hzero]
  constructor
  · rintro ⟨⟨⟨⟨hw, hh⟩, hdvdW⟩, hdvdH⟩, hsame⟩
    refine ⟨width.toNat / unitWidth.toNat, Nat.div_pos hw hwidth, ?_, ?_⟩
    · exact (Nat.mul_div_cancel' (Nat.dvd_of_mod_eq_zero hdvdW)).symm
    · rw [hsame]
      exact (Nat.mul_div_cancel' (Nat.dvd_of_mod_eq_zero hdvdH)).symm
  · rintro ⟨k, hk, hw, hh⟩
    rw [hw, hh, Nat.mul_mod_right, Nat.mul_mod_right, Nat.mul_div_cancel_left _ hwidth,
      Nat.mul_div_cancel_left _ hheight]
    exact ⟨⟨⟨⟨Nat.le_mul_of_pos_right _ hk, Nat.le_mul_of_pos_right _ hk⟩, rfl⟩, rfl⟩, rfl⟩

/-- **The dimensions of a texture** are multiples of one of the units of its type. -/
theorem validateTextureDimensions_iff {textureType : TextureType} {width height : UInt32} :
    validateTextureDimensions textureType width height = .ok () ↔
      ∃ k, MultipleOf k 64 32 width height ∨ match textureType with
        | .skin => MultipleOf k 64 64 width height
        | .cape => MultipleOf k 22 17 width height := by
  have hflat := isMultipleTextureSize_iff width height
    (show 0 < (64 : UInt32).toNat by decide) (show 0 < (32 : UInt32).toNat by decide)
  have hsquare := isMultipleTextureSize_iff width height
    (show 0 < (64 : UInt32).toNat by decide) (show 0 < (64 : UInt32).toNat by decide)
  have hlegacy := isMultipleTextureSize_iff width height
    (show 0 < (22 : UInt32).toNat by decide) (show 0 < (17 : UInt32).toNat by decide)
  have hok : ∀ (valid : Bool) (error : AsterError),
      (if valid = true then Except.ok () else .error error) = .ok () ↔ valid = true := by
    intro valid error
    cases valid <;> simp
  cases textureType with
  | skin =>
      rw [validateTextureDimensions, hok, Bool.or_eq_true, hflat, hsquare, ← exists_or]
      rfl
  | cape =>
      rw [validateTextureDimensions, hok, Bool.or_eq_true, hflat, hlegacy, ← exists_or]
      rfl

theorem mul_lt_u64 (width height : UInt32) : width.toNat * height.toNat < 2 ^ 64 :=
  calc width.toNat * height.toNat < 2 ^ 32 * 2 ^ 32 :=
        Nat.mul_lt_mul'' width.toNat_lt height.toNat_lt
    _ = 2 ^ 64 := by decide

theorem validateTexturePixelLimit_iff {width height : UInt32} {maxPixels : UInt64} :
    validateTexturePixelLimit width height maxPixels = .ok () ↔
      width.toNat * height.toNat ≤ maxPixels.toNat := by
  have hlt := mul_lt_u64 width height
  unfold validateTexturePixelLimit
  dsimp only
  rw [if_neg (Nat.not_le.mpr hlt)]
  split
  · next hlarge => exact iff_of_false (fun h => nomatch h) (Nat.not_le.mpr hlarge)
  · next hle => exact iff_of_true rfl (Nat.not_lt.mp hle)

end AsterYggdrasil.Textures
