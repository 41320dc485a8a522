import AsterYggdrasil.Frontend.Doubles
import AsterYggdrasil.Renderer.Images
import AsterYggdrasil.Texture.Dimensions

/-!
# The dimensions of skins

Four checks decide which dimensions a skin may have: that of the service, that of the renderer,
that of the upload form and that of the editor.  The last two compute with doubles, whose
products are rounded.

The product of the renderer wraps around: **`dimensions_agree_iff`** says for which dimensions
the checks agree.
-/

namespace AsterYggdrasil.SkinDimensions

open Doubles Textures

/-! ## The renderer -/

/-- The dimensions that `validate_skin_dimensions` accepts. -/
def ValidSkinDimensions (width height : UInt32) : Prop :=
  width ≠ 0 ∧ height ≠ 0 ∧ width % 64 = 0 ∧ (height = width ∨ height * 2 = width)

instance (width height : UInt32) : Decidable (ValidSkinDimensions width height) :=
  inferInstanceAs (Decidable (_ ∧ _ ∧ _ ∧ (_ ∨ _)))

/-! ## The upload form -/

/-- `TextureUploadValidationError`, for what is wrong with the dimensions. -/
inductive UploadError
  | invalidPng
  | tooManyPixels (width height pixels limit : Nat)
  | invalidDimensions (width height : Nat) (textureType : TextureType)
  deriving DecidableEq, Repr

/-- `isMultipleTextureSize`. -/
def isMultipleTextureSize (width height unitWidth unitHeight : Nat) : Bool :=
  unitWidth ≤ width && unitHeight ≤ height && width % unitWidth == 0 &&
    height % unitHeight == 0 && width / unitWidth == height / unitHeight

/-- `isValidTextureDimensions`. -/
def isValidTextureDimensions (textureType : TextureType) (width height : Nat) : Bool :=
  match textureType with
  | .skin => isMultipleTextureSize width height 64 32 || isMultipleTextureSize width height 64 64
  | .cape => isMultipleTextureSize width height 64 32 || isMultipleTextureSize width height 22 17

/-- `validateMinecraftTextureFile`, from the dimensions of the header on. -/
def validateMinecraftTextureFile (textureType : TextureType) (maxTexturePixels width height : Nat) :
    Except UploadError (Nat × Nat) :=
  if width = 0 ∨ height = 0 then .error .invalidPng
  else
    let pixels := nearest (width * height)
    if maxTexturePixels < pixels then
      .error (.tooManyPixels width height pixels maxTexturePixels)
    else if !isValidTextureDimensions textureType width height then
      .error (.invalidDimensions width height textureType)
    else .ok (width, height)

/-! ## The editor -/

/-- `SKIN_SIZE`. -/
def skinSize : Nat := 64

/-- `SkinImageDimensions`. -/
structure SkinImageDimensions where
  legacy : Bool
  scale : Nat
  size : Nat
  deriving DecidableEq, Repr

inductive EditorError
  | invalidSkinDimensions (width height : Nat)
  | skinPixelLimitExceeded (width height : Nat)
  deriving DecidableEq, Repr

/-- `analyzeSkinImageDimensions`; no limit is `POSITIVE_INFINITY`. -/
def analyzeSkinImageDimensions (width height : Nat) (maxPixels : Option Nat) :
    Except EditorError SkinImageDimensions :=
  let modern := width == height && width % skinSize == 0
  let legacy := width == height * 2 && width % skinSize == 0 && height % (skinSize / 2) == 0
  if 2 ^ 53 ≤ width ∨ 2 ^ 53 ≤ height ∨ width = 0 ∨ height = 0 ∨ (!modern && !legacy) then
    .error (.invalidSkinDimensions width height)
  else if maxPixels.any (· < nearest (width * width)) then
    .error (.skinPixelLimitExceeded width height)
  else .ok ⟨legacy, width / skinSize, width⟩

/-! ## What the checks accept -/

/-- The dimensions of a skin: `k` units of 64, square or half as high. -/
def SkinOf (k width height : Nat) : Prop :=
  0 < k ∧ width = 64 * k ∧ (height = 32 * k ∨ height = 64 * k)

theorem service_iff {width height : UInt32} :
    validateTextureDimensions .skin width height = .ok () ↔
      ∃ k, SkinOf k width.toNat height.toNat := by
  rw [validateTextureDimensions_iff]
  constructor
  · rintro ⟨k, ⟨hk, hwidth, hheight⟩ | ⟨hk, hwidth, hheight⟩⟩
    · exact ⟨k, hk, hwidth, Or.inl hheight⟩
    · exact ⟨k, hk, hwidth, Or.inr hheight⟩
  · rintro ⟨k, hk, hwidth, hheight | hheight⟩
    · exact ⟨k, Or.inl ⟨hk, hwidth, hheight⟩⟩
    · exact ⟨k, Or.inr ⟨hk, hwidth, hheight⟩⟩

theorem isMultipleTextureSize_iff {width height unitWidth unitHeight : Nat}
    (hwidth : 0 < unitWidth) (hheight : 0 < unitHeight) :
    isMultipleTextureSize width height unitWidth unitHeight = true ↔
      ∃ k, 0 < k ∧ width = unitWidth * k ∧ height = unitHeight * k := by
  simp only [isMultipleTextureSize, Bool.and_eq_true, decide_eq_true_eq, beq_iff_eq]
  constructor
  · rintro ⟨⟨⟨⟨hw, hh⟩, hdvdW⟩, hdvdH⟩, hsame⟩
    refine ⟨width / unitWidth, Nat.div_pos hw hwidth, ?_, ?_⟩
    · exact (Nat.mul_div_cancel' (Nat.dvd_of_mod_eq_zero hdvdW)).symm
    · rw [hsame]
      exact (Nat.mul_div_cancel' (Nat.dvd_of_mod_eq_zero hdvdH)).symm
  · rintro ⟨k, hk, rfl, rfl⟩
    rw [Nat.mul_mod_right, Nat.mul_mod_right, Nat.mul_div_cancel_left _ hwidth,
      Nat.mul_div_cancel_left _ hheight]
    exact ⟨⟨⟨⟨Nat.le_mul_of_pos_right _ hk, Nat.le_mul_of_pos_right _ hk⟩, rfl⟩, rfl⟩, rfl⟩

theorem isValidTextureDimensions_iff {width height : Nat} :
    isValidTextureDimensions .skin width height = true ↔ ∃ k, SkinOf k width height := by
  rw [isValidTextureDimensions, Bool.or_eq_true,
    isMultipleTextureSize_iff (by decide) (by decide),
    isMultipleTextureSize_iff (by decide) (by decide), ← exists_or]
  apply exists_congr
  intro k
  unfold SkinOf
  tauto

/-- **The products of the dimensions of skins are exact.** -/
theorem nearest_skin {k width height : Nat} (h : SkinOf k width height) (h32 : width < 2 ^ 32) :
    nearest (width * height) = width * height ∧ nearest (width * width) = width * width := by
  obtain ⟨hk, rfl, hheight⟩ := h
  have hsmall : k * k < 2 ^ 53 :=
    calc k * k < 2 ^ 26 * 2 ^ 26 := Nat.mul_lt_mul'' (by omega) (by omega)
      _ < 2 ^ 53 := by decide
  have hsquare : 64 * k * (64 * k) = k * k * 2 ^ 12 := by ring
  have hflat : 64 * k * (32 * k) = k * k * 2 ^ 11 := by ring
  constructor
  · rcases hheight with rfl | rfl
    · rw [hflat]
      exact nearest_exact hsmall
    · rw [hsquare]
      exact nearest_exact hsmall
  · rw [hsquare]
    exact nearest_exact hsmall

/-- **The upload form accepts** skins within the limit. -/
theorem form_iff {width height : UInt32} {limit : Nat} :
    (∃ dimensions, validateMinecraftTextureFile .skin limit width.toNat height.toNat =
        .ok dimensions) ↔
      (∃ k, SkinOf k width.toNat height.toNat) ∧ width.toNat * height.toNat ≤ limit := by
  unfold validateMinecraftTextureFile
  dsimp only
  by_cases hvalid : ∃ k, SkinOf k width.toNat height.toNat
  · obtain ⟨k, hk⟩ := id hvalid
    obtain ⟨hexact, -⟩ := nearest_skin hk width.toNat_lt
    obtain ⟨hpos, hwidth, hheight⟩ := hk
    rw [if_neg (by omega), hexact, isValidTextureDimensions_iff.mpr hvalid]
    by_cases hle : width.toNat * height.toNat ≤ limit
    · rw [if_neg (Nat.not_lt.mpr hle), if_neg (by decide)]
      exact iff_of_true ⟨_, rfl⟩ ⟨hvalid, hle⟩
    · rw [if_pos (Nat.not_le.mp hle)]
      exact iff_of_false (fun ⟨_, h⟩ => nomatch h) fun h => hle h.2
  · have hinvalid : isValidTextureDimensions .skin width.toNat height.toNat = false := by
      rw [Bool.eq_false_iff]
      exact fun h => hvalid (isValidTextureDimensions_iff.mp h)
    rw [hinvalid]
    refine iff_of_false ?_ fun h => hvalid h.1
    rintro ⟨dimensions, h⟩
    split at h
    · cases h
    · split at h
      · cases h
      · cases h

/-- **The editor accepts** skins whose square canvas is within the limit. -/
theorem editor_spec {width height : Nat} {maxPixels : Option Nat}
    {dimensions : SkinImageDimensions} (h32 : width < 2 ^ 32)
    (h : analyzeSkinImageDimensions width height maxPixels = .ok dimensions) :
    (∃ k, SkinOf k width height) ∧ dimensions.size = width ∧
      ∀ limit, maxPixels = some limit → width * width ≤ limit := by
  unfold analyzeSkinImageDimensions at h
  dsimp only at h
  split at h
  · cases h
  · next hvalid =>
      simp only [not_or, Bool.and_eq_true, Bool.not_eq_true', not_and, Bool.not_eq_false,
        beq_iff_eq, skinSize] at hvalid
      obtain ⟨-, -, hwidth, hheight, hform⟩ := hvalid
      have hskin : SkinOf (width / 64) width height := by
        by_cases hmodern : (width == height && width % 64 == 0) = true
        · simp only [Bool.and_eq_true, beq_iff_eq] at hmodern
          exact ⟨by omega, by omega, by omega⟩
        · obtain ⟨⟨hdouble, hdvd⟩, -⟩ := hform (Bool.eq_false_iff.mpr hmodern)
          exact ⟨by omega, by omega, by omega⟩
      split at h
      · cases h
      · next hlimit =>
          cases h
          refine ⟨⟨_, hskin⟩, rfl, fun limit hmax => ?_⟩
          subst hmax
          rw [(nearest_skin hskin h32).2] at hlimit
          simpa using hlimit

/-- **The renderer accepts** skins, and heights whose double wraps around to the width. -/
theorem renderer_iff {width height : UInt32} :
    ValidSkinDimensions width height ↔
      (∃ k, SkinOf k width.toNat height.toNat) ∨
        (0 < width.toNat ∧ width.toNat % 64 = 0 ∧
          height.toNat * 2 = width.toNat + 2 ^ 32) := by
  have hwidth32 := width.toNat_lt
  have hheight32 := height.toNat_lt
  have hzero : (0 : UInt32).toNat = 0 := rfl
  have hmod : (64 : UInt32).toNat = 64 := rfl
  have htwo : (2 : UInt32).toNat = 2 := rfl
  simp only [ValidSkinDimensions, ne_eq, ← UInt32.toNat_inj, UInt32.toNat_mod, UInt32.toNat_mul,
    hzero, hmod, htwo]
  constructor
  · rintro ⟨hwidth, hheight, hdvd, hsquare | hdouble⟩
    · exact Or.inl ⟨width.toNat / 64, by omega, by omega, by omega⟩
    · by_cases hwraps : 2 ^ 32 ≤ height.toNat * 2
      · exact Or.inr (by omega)
      · exact Or.inl ⟨width.toNat / 64, by omega, by omega, by omega⟩
  · rintro (⟨k, hk, hwidth, hheight | hheight⟩ | ⟨hpos, hdvd, hwraps⟩)
    · exact ⟨by omega, by omega, by omega, by omega⟩
    · exact ⟨by omega, by omega, by omega, by omega⟩
    · exact ⟨by omega, by omega, by omega, by omega⟩

/-! ## Agreement -/

/-- The limit and the dimensions, as the service checks them. -/
def ServiceAccepts (limit : UInt64) (width height : UInt32) : Prop :=
  validateTexturePixelLimit width height limit = .ok () ∧
    validateTextureDimensions .skin width height = .ok ()

/-- The checks agree on the dimensions. -/
structure Agree (width height : UInt32) : Prop where
  /-- The service and the upload form, with every limit. -/
  form : ∀ limit : UInt64, ServiceAccepts limit width height ↔
    ∃ dimensions, validateMinecraftTextureFile .skin limit.toNat width.toNat height.toNat =
      .ok dimensions
  /-- The service and the renderer, without a limit. -/
  renderer : validateTextureDimensions .skin width height = .ok () ↔
    ValidSkinDimensions width height
  /-- What the editor accepts, and the canvas that it uploads. -/
  editor : ∀ maxPixels dimensions,
    analyzeSkinImageDimensions width.toNat height.toNat maxPixels = .ok dimensions →
      ∃ side : UInt32, dimensions.size = side.toNat ∧
        validateTextureDimensions .skin width height = .ok () ∧
        validateTextureDimensions .skin side side = .ok () ∧ ValidSkinDimensions side side ∧
        ∀ limit : UInt64, maxPixels = some limit.toNat →
          ServiceAccepts limit width height ∧ ServiceAccepts limit side side

theorem serviceAccepts_iff {limit : UInt64} {width height : UInt32} :
    ServiceAccepts limit width height ↔
      (∃ k, SkinOf k width.toNat height.toNat) ∧ width.toNat * height.toNat ≤ limit.toNat := by
  rw [ServiceAccepts, validateTexturePixelLimit_iff, service_iff, and_comm]

/-- The canvas of the editor is a skin. -/
theorem skinOf_square {k width height : Nat} (h : SkinOf k width height) :
    SkinOf k width width := ⟨h.1, h.2.1, Or.inr h.2.1⟩

theorem editor_agrees {width height : UInt32} {maxPixels : Option Nat}
    {dimensions : SkinImageDimensions}
    (h : analyzeSkinImageDimensions width.toNat height.toNat maxPixels = .ok dimensions) :
    ∃ side : UInt32, dimensions.size = side.toNat ∧
      validateTextureDimensions .skin width height = .ok () ∧
      validateTextureDimensions .skin side side = .ok () ∧ ValidSkinDimensions side side ∧
      ∀ limit : UInt64, maxPixels = some limit.toNat →
        ServiceAccepts limit width height ∧ ServiceAccepts limit side side := by
  obtain ⟨⟨k, hk⟩, hsize, hlimit⟩ := editor_spec width.toNat_lt h
  have hsquare := skinOf_square hk
  refine ⟨width, hsize, service_iff.mpr ⟨k, hk⟩, service_iff.mpr ⟨k, hsquare⟩,
    renderer_iff.mpr (Or.inl ⟨k, hsquare⟩), fun limit hmax => ?_⟩
  have hle := hlimit limit.toNat hmax
  have hlower : width.toNat * height.toNat ≤ width.toNat * width.toNat := by
    obtain ⟨-, hwidth, hheight⟩ := hk
    exact Nat.mul_le_mul_left _ (by omega)
  exact ⟨serviceAccepts_iff.mpr ⟨⟨k, hk⟩, Nat.le_trans hlower hle⟩,
    serviceAccepts_iff.mpr ⟨⟨k, hsquare⟩, hle⟩⟩

/-- **The checks agree** exactly where the product of the renderer does not wrap around to the
width. -/
theorem dimensions_agree_iff (width height : UInt32) :
    Agree width height ↔
      ¬(0 < width.toNat ∧ width.toNat % 64 = 0 ∧ height.toNat * 2 = width.toNat + 2 ^ 32) := by
  constructor
  · rintro ⟨-, hrenderer, -⟩ hwraps
    obtain ⟨k, hk, hwidth, hheight⟩ :=
      service_iff.mp (hrenderer.mpr (renderer_iff.mpr (Or.inr hwraps)))
    have hwidth32 := width.toNat_lt
    omega
  · intro hexact
    refine ⟨fun limit => ?_, ?_, fun _ _ => editor_agrees⟩
    · rw [serviceAccepts_iff, form_iff]
    · rw [service_iff, renderer_iff]
      exact ⟨Or.inl, fun h => h.resolve_right hexact⟩

/-- **A height whose double wraps around** is accepted by the renderer alone. -/
theorem wrappedHeight_disagrees :
    ValidSkinDimensions 64 2147483680 ∧
      validateTextureDimensions .skin 64 2147483680 ≠ .ok () ∧ ¬Agree 64 2147483680 := by
  have hrenderer : ValidSkinDimensions 64 2147483680 := by decide
  have hservice : validateTextureDimensions .skin 64 2147483680 ≠ .ok () := by
    intro h
    obtain ⟨k, hk, hwidth, hheight⟩ := service_iff.mp h
    have hw : (64 : UInt32).toNat = 64 := rfl
    have hh : (2147483680 : UInt32).toNat = 2147483680 := rfl
    omega
  exact ⟨hrenderer, hservice, fun h => hservice (h.renderer.mpr hrenderer)⟩

end AsterYggdrasil.SkinDimensions
