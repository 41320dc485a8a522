import AsterYggdrasil.Texture.Processing

/-!
# Textures: sanitizing an upload

The PNG decoder, the encoder and the hash are third-party code.  What is assumed of them is that
decoding inverts encoding.  The limit on pixels concerns the upload, and the padded canvas is
larger: **`sanitize_lossless`** says that nothing is lost, and that the result can be uploaded
again exactly where its canvas stays within the limit.
-/

namespace AsterYggdrasil.Textures

open Renderer

/-- What is decoded is what was encoded. -/
def PngCodec.Lawful (codec : PngCodec) : Prop :=
  ∀ image : RgbaImage, image.width ≠ 0 → image.height ≠ 0 →
    ∃ bytes, codec.encode image = .ok bytes ∧ codec.header bytes = .ok (image.width, image.height) ∧
      codec.decode bytes = .ok image

/-! ## The canvas -/

/-- Every pixel is where it was, and what was added is transparent. -/
def Preserves (image canvas : RgbaImage) : Prop :=
  image.width.toNat ≤ canvas.width.toNat ∧ image.height.toNat ≤ canvas.height.toNat ∧
    ∀ x y, x < canvas.width.toNat → y < canvas.height.toNat →
      canvas.pixelAt x y =
        if x < image.width.toNat ∧ y < image.height.toNat then image.pixelAt x y else transparent

/-- A cape of the old form, in units of 22 by 17. -/
def LegacyCape (textureType : TextureType) (image : RgbaImage) (k : Nat) : Prop :=
  textureType = .cape ∧ MultipleOf k 22 17 image.width image.height

/-- The padded canvas has a buffer. -/
def CanvasFits (textureType : TextureType) (image : RgbaImage) : Prop :=
  ∀ k, LegacyCape textureType image k → 64 * k * (32 * k) * 4 < 2 ^ 64

/-- The padded canvas is within the limit on pixels. -/
def CanvasWithin (textureType : TextureType) (image : RgbaImage) (maxPixels : UInt64) : Prop :=
  ∀ k, LegacyCape textureType image k → 64 * k * (32 * k) ≤ maxPixels.toNat

theorem preserves_self (image : RgbaImage) : Preserves image image :=
  ⟨Nat.le_refl _, Nat.le_refl _, fun _ _ hx hy => (if_pos ⟨hx, hy⟩).symm⟩

section Canvas

variable {textureType : TextureType} {image canvas : RgbaImage} {k : Nat}

theorem normalize_other (h : ∀ k, ¬LegacyCape textureType image k) :
    normalizeTextureCanvas textureType image = some image := by
  unfold normalizeTextureCanvas
  rw [if_pos]
  by_cases hcape : textureType = .cape
  · have hnot : isMultipleTextureSize image.width image.height 22 17 = false := by
      rw [Bool.eq_false_iff]
      intro hmultiple
      obtain ⟨k, hk⟩ := (isMultipleTextureSize_iff _ _ (by decide) (by decide)).mp hmultiple
      exact h k ⟨hcape, hk⟩
    rw [hnot]
    simp
  · simp [hcape]

theorem normalize_legacy_eq (h : LegacyCape textureType image k) :
    normalizeTextureCanvas textureType image = paddedCanvas image k := by
  obtain ⟨rfl, hk⟩ := h
  have hmultiple : isMultipleTextureSize image.width image.height 22 17 = true :=
    (isMultipleTextureSize_iff _ _ (by decide) (by decide)).mpr ⟨k, hk⟩
  have hscale : image.width.toNat / 22 = k := by
    have hwidth := hk.2.1
    omega
  unfold normalizeTextureCanvas
  rw [hmultiple, if_neg (by decide), hscale]

/-- **A cape of the old form is padded** where its canvas has a buffer. -/
theorem normalize_legacy (h : LegacyCape textureType image k)
    (hfits : 64 * k * (32 * k) * 4 < 2 ^ 64) :
    ∃ canvas, normalizeTextureCanvas textureType image = some canvas ∧
      canvas.width.toNat = 64 * k ∧ canvas.height.toNat = 32 * k ∧ Preserves image canvas := by
  obtain ⟨-, -, hwidth, hheight⟩ := id h
  have hsmall : k < 2 ^ 26 := by
    by_contra hlarge
    have hsquare : 2 ^ 26 * 2 ^ 26 ≤ k * k :=
      Nat.mul_le_mul (Nat.not_lt.mp hlarge) (Nat.not_lt.mp hlarge)
    have hproduct : 64 * k * (32 * k) * 4 = 8192 * (k * k) := by ring
    omega
  have hw : (UInt32.ofNat (64 * k)).toNat = 64 * k := toNat_ofNat (by omega)
  have hh : (UInt32.ofNat (32 * k)).toNat = 32 * k := toNat_ofNat (by omega)
  obtain ⟨padded, hpadded⟩ : ∃ padded, RgbaImage.fromPixel (UInt32.ofNat (64 * k))
      (UInt32.ofNat (32 * k)) transparent = some padded := by
    unfold RgbaImage.fromPixel
    rw [dif_pos (by rwa [hw, hh])]
    exact ⟨_, rfl⟩
  have hsize : padded.width.toNat = 64 * k ∧ padded.height.toNat = 32 * k := by
    have hpadded' := hpadded
    unfold RgbaImage.fromPixel at hpadded'
    rw [dif_pos (by rwa [hw, hh])] at hpadded'
    cases hpadded'
    exact ⟨hw, hh⟩
  obtain ⟨canvas, hpaint, hsame, hpixels⟩ := paint_ok (fun x y => image.pixelAt x y)
    (fun y x padded => do
      let color ← image.getPixel (UInt32.ofNat x) (UInt32.ofNat y)
      padded.putPixel (UInt32.ofNat x) (UInt32.ofNat y) color)
    (show image.width.toNat ≤ padded.width.toNat by omega)
    (show image.height.toNat ≤ padded.height.toNat by omega)
    (fun y hy x hx padded => by
      rw [getPixel_of_lt hx hy]
      rfl)
  have hcanvas : canvas.width.toNat = 64 * k ∧ canvas.height.toNat = 32 * k := by
    rw [hsame.1, hsame.2]
    exact hsize
  refine ⟨canvas, ?_, hcanvas.1, hcanvas.2, by omega, by omega, fun x y hx hy => ?_⟩
  · rw [normalize_legacy_eq h]
    simp only [paddedCanvas, u32_of_lt (n := 64 * k) (by omega),
      u32_of_lt (n := 32 * k) (by omega), hpadded, Option.bind_eq_bind, Option.bind_some]
    exact hpaint
  · rw [hcanvas.1] at hx
    rw [hcanvas.2] at hy
    rw [hpixels x y (by omega)]
    split
    · rfl
    · exact pixelAt_fromPixel hpadded (by rwa [hw]) (by rwa [hh])

/-- **Otherwise there is no canvas.** -/
theorem fits_of_normalize (h : LegacyCape textureType image k)
    (hcanvas : normalizeTextureCanvas textureType image = some canvas) :
    64 * k * (32 * k) * 4 < 2 ^ 64 := by
  rw [normalize_legacy_eq h] at hcanvas
  obtain ⟨outputWidth, hwidth, hcanvas⟩ := Option.bind_eq_some_iff.mp hcanvas
  obtain ⟨outputHeight, hheight, hcanvas⟩ := Option.bind_eq_some_iff.mp hcanvas
  obtain ⟨padded, hpadded, -⟩ := Option.bind_eq_some_iff.mp hcanvas
  obtain ⟨rfl, hw⟩ := u32_eq_some hwidth
  obtain ⟨rfl, hh⟩ := u32_eq_some hheight
  unfold RgbaImage.fromPixel at hpadded
  split at hpadded
  · next hfits => rwa [toNat_ofNat hw, toNat_ofNat hh] at hfits
  · cases hpadded

/-- **A canvas exists exactly where it has a buffer.** -/
theorem normalize_some_iff :
    (∃ canvas, normalizeTextureCanvas textureType image = some canvas) ↔
      CanvasFits textureType image := by
  constructor
  · rintro ⟨canvas, hcanvas⟩ k hk
    exact fits_of_normalize hk hcanvas
  · intro hfits
    by_cases hlegacy : ∃ k, LegacyCape textureType image k
    · obtain ⟨k, hk⟩ := hlegacy
      obtain ⟨canvas, hcanvas, -⟩ := normalize_legacy hk (hfits k hk)
      exact ⟨canvas, hcanvas⟩
    · exact ⟨image, normalize_other (not_exists.mp hlegacy)⟩

/-- A legacy cape has one scale. -/
theorem legacyCape_unique {k' : Nat} (h : LegacyCape textureType image k)
    (h' : LegacyCape textureType image k') : k' = k := by
  have hwidth := h.2.2.1
  have hwidth' := h'.2.2.1
  omega

/-- **What a canvas is**: it preserves the image, its dimensions are those of its type, it is
its own canvas, and it is within the limit exactly where the padded canvas and the image are. -/
theorem normalize_spec {maxPixels : UInt64}
    (hcanvas : normalizeTextureCanvas textureType image = some canvas)
    (hdimensions : validateTextureDimensions textureType image.width image.height = .ok ())
    (hlimit : image.width.toNat * image.height.toNat ≤ maxPixels.toNat) :
    Preserves image canvas ∧
      validateTextureDimensions textureType canvas.width canvas.height = .ok () ∧
      normalizeTextureCanvas textureType canvas = some canvas ∧
      (canvas.width.toNat * canvas.height.toNat ≤ maxPixels.toNat ↔
        CanvasWithin textureType image maxPixels) := by
  by_cases hlegacy : ∃ k, LegacyCape textureType image k
  · obtain ⟨k, hk⟩ := hlegacy
    obtain ⟨canvas', hcanvas', hwidth, hheight, hpreserves⟩ :=
      normalize_legacy hk (fits_of_normalize hk hcanvas)
    rw [hcanvas] at hcanvas'
    cases hcanvas'
    obtain ⟨hcape, hpos, -⟩ := id hk
    subst hcape
    refine ⟨hpreserves, ?_, ?_, ?_⟩
    · exact validateTextureDimensions_iff.mpr ⟨k, Or.inl ⟨hpos, hwidth, hheight⟩⟩
    · -- a width of 64 units is no width of 22 units with the old height
      refine normalize_other fun j hj => ?_
      obtain ⟨-, -, hw, hh⟩ := hj
      omega
    · rw [hwidth, hheight]
      constructor
      · intro hle k' hk'
        rwa [legacyCape_unique hk hk']
      · exact fun hwithin => hwithin k hk
  · have hother := not_exists.mp hlegacy
    rw [normalize_other hother] at hcanvas
    cases hcanvas
    exact ⟨preserves_self image, hdimensions, normalize_other hother,
      iff_of_true hlimit fun k hk => absurd hk (hother k)⟩

end Canvas

/-! ## Sanitizing -/

section Sanitize

variable {codec : PngCodec} {upload : List UInt8} {textureType : TextureType}
  {maxPixels : UInt64} {image : RgbaImage}

/-- What the checks say. -/
theorem checkedImage_eq_ok (h : checkedImage codec upload textureType maxPixels = .ok image) :
    codec.decode upload = .ok image ∧ image.width.toNat * image.height.toNat ≤ maxPixels.toNat ∧
      validateTextureDimensions textureType image.width image.height = .ok () := by
  obtain ⟨⟨width, height⟩, -, h⟩ := Interleave.Prog.except_bind_ok h
  obtain ⟨-, -, h⟩ := Interleave.Prog.except_bind_ok h
  obtain ⟨-, -, h⟩ := Interleave.Prog.except_bind_ok h
  obtain ⟨decoded, hdecode, h⟩ := Interleave.Prog.except_bind_ok h
  obtain ⟨⟨⟩, hlimit, h⟩ := Interleave.Prog.except_bind_ok h
  obtain ⟨⟨⟩, hdimensions, h⟩ := Interleave.Prog.except_bind_ok h
  cases h
  refine ⟨?_, validateTexturePixelLimit_iff.mp hlimit, hdimensions⟩
  cases hresult : codec.decode upload with
  | error error =>
      rw [hresult] at hdecode
      cases hdecode
  | ok decoded =>
      rw [hresult] at hdecode
      cases hdecode
      rfl

/-- The checks of what was encoded. -/
theorem checkedImage_encoded {bytes : List UInt8} (maxPixels : UInt64)
    (hheader : codec.header bytes = .ok (image.width, image.height))
    (hdecode : codec.decode bytes = .ok image)
    (hdimensions : validateTextureDimensions textureType image.width image.height = .ok ()) :
    checkedImage codec bytes textureType maxPixels = .ok image ↔
      image.width.toNat * image.height.toNat ≤ maxPixels.toNat := by
  constructor
  · exact fun h => (checkedImage_eq_ok h).2.1
  · intro hle
    have hlimit : validateTexturePixelLimit image.width image.height maxPixels = .ok () :=
      validateTexturePixelLimit_iff.mpr hle
    simp only [checkedImage, hheader, hdecode, Except.mapError, bind, Except.bind, hlimit,
      hdimensions]
    rfl

/-- **What is sanitized** is the canvas of the image. -/
theorem sanitize_eq_ok {result : TextureProcessingResult}
    (h : sanitizePngTexture codec upload textureType maxPixels = some (.ok result)) :
    ∃ image canvas, checkedImage codec upload textureType maxPixels = .ok image ∧
      normalizeTextureCanvas textureType image = some canvas ∧
      codec.encode canvas = .ok result.bytes ∧ result.width = canvas.width.toNat ∧
      result.height = canvas.height.toNat ∧ result.hash = codec.sha256Hex result.bytes ∧
      result.fileSize = result.bytes.length := by
  unfold sanitizePngTexture at h
  cases hchecked : checkedImage codec upload textureType maxPixels with
  | error error =>
      rw [hchecked] at h
      cases h
  | ok image =>
      rw [hchecked] at h
      obtain ⟨canvas, hcanvas, h⟩ := Option.bind_eq_some_iff.mp h
      cases hencode : codec.encode canvas with
      | error error =>
          rw [hencode] at h
          cases h
      | ok bytes =>
          rw [hencode] at h
          cases h
          exact ⟨image, canvas, rfl, hcanvas, hencode, rfl, rfl, rfl, rfl⟩

/-- The result for a canvas and its bytes. -/
theorem sanitize_of_canvas {canvas : RgbaImage} {result : TextureProcessingResult}
    (hchecked : checkedImage codec upload textureType maxPixels = .ok image)
    (hcanvas : normalizeTextureCanvas textureType image = some canvas)
    (hencode : codec.encode canvas = .ok result.bytes)
    (hwidth : result.width = canvas.width.toNat) (hheight : result.height = canvas.height.toNat)
    (hhash : result.hash = codec.sha256Hex result.bytes)
    (hsize : result.fileSize = result.bytes.length) :
    sanitizePngTexture codec upload textureType maxPixels = some (.ok result) := by
  obtain ⟨width, height, fileSize, hash, bytes, hvalid⟩ := result
  dsimp only at hencode hwidth hheight hhash hsize
  subst hwidth hheight hhash hsize
  simp only [sanitizePngTexture, hchecked, hcanvas, hencode, Option.bind_eq_bind, Option.bind_some]

/-- The dimensions that are accepted are positive. -/
theorem pos_of_dimensions {width height : UInt32}
    (h : validateTextureDimensions textureType width height = .ok ()) :
    width ≠ 0 ∧ height ≠ 0 := by
  obtain ⟨k, hk⟩ := validateTextureDimensions_iff.mp h
  simp only [← UInt32.toNat_inj, ne_eq]
  have hzero : (0 : UInt32).toNat = 0 := rfl
  rw [hzero]
  cases textureType with
  | skin =>
      rcases hk with ⟨hpos, hw, hh⟩ | ⟨hpos, hw, hh⟩ <;> omega
  | cape =>
      rcases hk with ⟨hpos, hw, hh⟩ | ⟨hpos, hw, hh⟩ <;> omega

/-- **There is a result** exactly where the canvas has a buffer. -/
theorem sanitize_ok_iff (hcodec : codec.Lawful)
    (hchecked : checkedImage codec upload textureType maxPixels = .ok image) :
    (∃ result, sanitizePngTexture codec upload textureType maxPixels = some (.ok result)) ↔
      CanvasFits textureType image := by
  obtain ⟨-, hlimit, hdimensions⟩ := checkedImage_eq_ok hchecked
  constructor
  · rintro ⟨result, hresult⟩
    obtain ⟨image', canvas, hchecked', hcanvas, -⟩ := sanitize_eq_ok hresult
    rw [hchecked] at hchecked'
    cases hchecked'
    exact normalize_some_iff.mp ⟨canvas, hcanvas⟩
  · intro hfits
    obtain ⟨canvas, hcanvas⟩ := normalize_some_iff.mpr hfits
    obtain ⟨-, hdimensions', -⟩ := normalize_spec hcanvas hdimensions hlimit
    obtain ⟨hposW, hposH⟩ := pos_of_dimensions hdimensions'
    obtain ⟨bytes, hbytes, -⟩ := hcodec canvas hposW hposH
    exact ⟨⟨canvas.width.toNat, canvas.height.toNat, bytes.length, codec.sha256Hex bytes, bytes,
      codec.sha256Hex_valid bytes⟩, sanitize_of_canvas hchecked hcanvas hbytes rfl rfl rfl rfl⟩

/-- **A result** shows the upload, and can be sanitized again exactly where its canvas is within
the limit. -/
theorem sanitize_again (hcodec : codec.Lawful)
    (hchecked : checkedImage codec upload textureType maxPixels = .ok image)
    {result : TextureProcessingResult}
    (hresult : sanitizePngTexture codec upload textureType maxPixels = some (.ok result)) :
    ∃ canvas, codec.decode result.bytes = .ok canvas ∧ result.width = canvas.width.toNat ∧
      result.height = canvas.height.toNat ∧ Preserves image canvas ∧
      (CanvasWithin textureType image maxPixels →
        sanitizePngTexture codec result.bytes textureType maxPixels = some (.ok result)) ∧
      ∀ result', sanitizePngTexture codec result.bytes textureType maxPixels =
        some (.ok result') → CanvasWithin textureType image maxPixels := by
  obtain ⟨image', canvas, hchecked', hcanvas, hencode, hwidth, hheight, hhash, hsize⟩ :=
    sanitize_eq_ok hresult
  rw [hchecked] at hchecked'
  cases hchecked'
  obtain ⟨-, hlimit, hdimensions⟩ := checkedImage_eq_ok hchecked
  obtain ⟨hpreserves, hdimensions', hagain, hwithin⟩ := normalize_spec hcanvas hdimensions hlimit
  obtain ⟨hposW, hposH⟩ := pos_of_dimensions hdimensions'
  obtain ⟨bytes, hbytes, hheader, hdecode⟩ := hcodec canvas hposW hposH
  rw [hencode] at hbytes
  cases hbytes
  have hencoded := checkedImage_encoded maxPixels hheader hdecode hdimensions'
  refine ⟨canvas, hdecode, hwidth, hheight, hpreserves, fun h => ?_, fun result' h => ?_⟩
  · exact sanitize_of_canvas (hencoded.mpr (hwithin.mpr h)) hagain hencode hwidth hheight hhash
      hsize
  · obtain ⟨image', -, hchecked', -⟩ := sanitize_eq_ok h
    have himage := (checkedImage_eq_ok hchecked').1.symm.trans hdecode
    cases himage
    exact hwithin.mp (hencoded.mp hchecked')

/-- **Sanitizing loses nothing.**  For every upload that passes the checks, there is a result
exactly where the canvas has a buffer; every result shows the upload and otherwise nothing, and
it is accepted again exactly where its canvas is within the limit, with the same result. -/
theorem sanitize_lossless (hcodec : codec.Lawful)
    (hchecked : checkedImage codec upload textureType maxPixels = .ok image) :
    ((∃ result, sanitizePngTexture codec upload textureType maxPixels = some (.ok result)) ↔
      CanvasFits textureType image) ∧
    ∀ result, sanitizePngTexture codec upload textureType maxPixels = some (.ok result) →
      ∃ canvas, codec.decode result.bytes = .ok canvas ∧ result.width = canvas.width.toNat ∧
        result.height = canvas.height.toNat ∧ Preserves image canvas ∧
        (CanvasWithin textureType image maxPixels →
          sanitizePngTexture codec result.bytes textureType maxPixels = some (.ok result)) ∧
        ∀ result', sanitizePngTexture codec result.bytes textureType maxPixels =
          some (.ok result') → CanvasWithin textureType image maxPixels :=
  ⟨sanitize_ok_iff hcodec hchecked, fun _ hresult => sanitize_again hcodec hchecked hresult⟩

end Sanitize

/-! ## A format -/

/-- Four bytes of a number, the last one first. -/
def rawNumber (n : Nat) : List UInt8 :=
  [UInt8.ofNat n, UInt8.ofNat (n / 256), UInt8.ofNat (n / 65536), UInt8.ofNat (n / 16777216)]

/-- The number of four bytes. -/
def rawValue (a b c d : UInt8) : UInt32 :=
  UInt32.ofNat (a.toNat + 256 * b.toNat + 65536 * c.toNat + 16777216 * d.toNat)

/-- The dimensions, and the pixels as they are. -/
def rawEncode (image : RgbaImage) : List UInt8 :=
  rawNumber image.width.toNat ++ rawNumber image.height.toNat ++
    image.pixels.flatMap fun pixel => [pixel.red, pixel.green, pixel.blue, pixel.alpha]

def rawHeader : List UInt8 → Except String (UInt32 × UInt32)
  | a :: b :: c :: d :: e :: f :: g :: h :: _ => .ok (rawValue a b c d, rawValue e f g h)
  | _ => .error "no header"

def rawPixels : List UInt8 → Option (List Rgba)
  | [] => some []
  | red :: green :: blue :: alpha :: rest =>
      (rawPixels rest).map fun pixels => ⟨red, green, blue, alpha⟩ :: pixels
  | _ => none

def rawDecode (bytes : List UInt8) : Except String RgbaImage := do
  let (width, height) ← rawHeader bytes
  match rawPixels (bytes.drop 8) with
  | none => .error "no pixels"
  | some pixels =>
      if h : pixels.length = width.toNat * height.toNat ∧
          width.toNat * height.toNat * 4 < 2 ^ 64 then
        .ok ⟨width, height, pixels, h.1, h.2⟩
      else .error "no image"

/-- Images without compression, and a checksum of 64 digits. -/
def rawCodec : PngCodec where
  header := rawHeader
  decode := rawDecode
  encode image := .ok (rawEncode image)
  sha256Hex _ := String.ofList (List.replicate 64 '0')
  sha256Hex_valid _ := by decide

theorem rawValue_rawNumber (n : UInt32) :
    rawValue (UInt8.ofNat n.toNat) (UInt8.ofNat (n.toNat / 256)) (UInt8.ofNat (n.toNat / 65536))
      (UInt8.ofNat (n.toNat / 16777216)) = n := by
  have hn := n.toNat_lt
  apply UInt32.toNat_inj.mp
  simp only [rawValue, UInt8.toNat_ofNat']
  rw [toNat_ofNat (by omega)]
  omega

theorem rawPixels_flatMap (pixels : List Rgba) :
    rawPixels (pixels.flatMap fun pixel => [pixel.red, pixel.green, pixel.blue, pixel.alpha]) =
      some pixels := by
  induction pixels with
  | nil => rfl
  | cons pixel pixels ih =>
      simp only [List.flatMap_cons, List.cons_append, List.nil_append, rawPixels, ih,
        Option.map_some]

theorem rawHeader_rawEncode (image : RgbaImage) :
    rawHeader (rawEncode image) = .ok (image.width, image.height) := by
  simp only [rawEncode, rawNumber, List.cons_append, List.nil_append, rawHeader,
    rawValue_rawNumber]

theorem rawCodec_lawful : rawCodec.Lawful := by
  intro image _ _
  refine ⟨rawEncode image, rfl, rawHeader_rawEncode image, ?_⟩
  have hpixels : rawPixels ((rawEncode image).drop 8) = some image.pixels :=
    rawPixels_flatMap image.pixels
  simp only [rawCodec, rawDecode, rawHeader_rawEncode, bind, Except.bind, hpixels]
  rw [dif_pos ⟨image.filled, image.fits⟩]

/-- A transparent image. -/
def transparentImage (width height : UInt32)
    (fits : width.toNat * height.toNat * 4 < 2 ^ 64) : RgbaImage :=
  ⟨width, height, List.replicate (width.toNat * height.toNat) transparent,
    List.length_replicate, fits⟩

/-- The smallest cape of the old form. -/
def smallCape : RgbaImage := transparentImage 22 17 (by decide)

/-- A cape of the old form, of 91 units. -/
def largeCape : RgbaImage := transparentImage 2002 1547 (by decide)

/-- The limit that is configured by default. -/
def defaultMaxPixels : UInt64 := 4096 * 4096

theorem smallCape_lossless :
    ∃ result, sanitizePngTexture rawCodec (rawEncode smallCape) .cape defaultMaxPixels =
        some (.ok result) ∧
      sanitizePngTexture rawCodec result.bytes .cape defaultMaxPixels = some (.ok result) := by
  obtain ⟨bytes, hencode, hheader, hdecode⟩ := rawCodec_lawful smallCape (by decide) (by decide)
  cases hencode
  have hchecked : checkedImage rawCodec (rawEncode smallCape) .cape defaultMaxPixels =
      .ok smallCape := (checkedImage_encoded _ hheader hdecode rfl).mpr (by decide)
  obtain ⟨hsome, hresults⟩ := sanitize_lossless rawCodec_lawful hchecked
  have hwidth : smallCape.width.toNat = 22 := rfl
  obtain ⟨result, hresult⟩ := hsome.mpr fun k hk => by
    have hk' := hk.2.2.1
    obtain rfl : k = 1 := by omega
    decide
  obtain ⟨canvas, -, -, -, -, hagain, -⟩ := hresults result hresult
  refine ⟨result, hresult, hagain fun k hk => ?_⟩
  have hk' := hk.2.2.1
  obtain rfl : k = 1 := by omega
  decide

/-- **A large cape of the old form is accepted, and its canvas is not.** -/
theorem largeCape_rejected :
    ∃ result, sanitizePngTexture rawCodec (rawEncode largeCape) .cape defaultMaxPixels =
        some (.ok result) ∧
      ∀ result', sanitizePngTexture rawCodec result.bytes .cape defaultMaxPixels ≠
        some (.ok result') := by
  obtain ⟨bytes, hencode, hheader, hdecode⟩ := rawCodec_lawful largeCape (by decide) (by decide)
  cases hencode
  have hchecked : checkedImage rawCodec (rawEncode largeCape) .cape defaultMaxPixels =
      .ok largeCape := (checkedImage_encoded _ hheader hdecode rfl).mpr (by decide)
  have hlegacy : LegacyCape .cape largeCape 91 := ⟨rfl, by decide, rfl, rfl⟩
  obtain ⟨result, hresult⟩ := (sanitize_ok_iff rawCodec_lawful hchecked).mpr fun k hk => by
    rw [legacyCape_unique hlegacy hk]
    decide
  obtain ⟨canvas, -, -, -, -, -, honly⟩ := sanitize_again rawCodec_lawful hchecked hresult
  refine ⟨result, hresult, fun result' hresult' => ?_⟩
  have hwithin := honly result' hresult' 91 hlegacy
  revert hwithin
  decide

end AsterYggdrasil.Textures
