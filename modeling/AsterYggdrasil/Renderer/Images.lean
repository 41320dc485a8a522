import Mathlib

/-!
# Images

An image is its pixels, row by row, and has as many of them as its dimensions say.
Dimensions and coordinates are `u32`s, whose operations wrap around as in a release
build; what panics is `none`.

Nothing is assumed about floating-point numbers: they are any type with the
operations that the renderer uses.
-/

namespace AsterYggdrasil.Renderer

/-- Floating-point numbers. -/
class F32 (F : Type) extends OfScientific F, Add F, Sub F, Mul F, Div F, Neg F where
  /-- `as f32`, `f32::from` -/
  ofNat : Nat → F
  /-- `as u32`, which saturates -/
  toU32 : F → UInt32
  /-- `as u8`, which saturates -/
  toU8 : F → UInt8
  mulAdd : F → F → F → F
  fmin : F → F → F
  fmax : F → F → F
  clamp : F → F → F → F
  floor : F → F
  ceil : F → F
  round : F → F
  abs : F → F
  sin : F → F
  cos : F → F
  toRadians : F → F
  lt : F → F → Bool
  le : F → F → Bool
  /-- `total_cmp` is not `Greater` -/
  totalLe : F → F → Bool

/-- A total order of the floats by their bits, as `total_cmp` has it. -/
def totalKey (a : Float32) : Int :=
  let bits := a.toBits.toNat
  if bits < 2 ^ 31 then bits else 2 ^ 31 - 1 - bits

/-- The floats of the machine; `mulAdd` rounds twice. -/
instance : F32 Float32 where
  ofNat := Float32.ofNat
  toU32 := Float32.toUInt32
  toU8 := Float32.toUInt8
  mulAdd a b c := a * b + c
  fmin a b := if a.isNaN then b else if b.isNaN || a ≤ b then a else b
  fmax a b := if a.isNaN then b else if b.isNaN || b ≤ a then a else b
  clamp a lo hi := if a < lo then lo else if hi < a then hi else a
  floor := Float32.floor
  ceil := Float32.ceil
  round := Float32.round
  abs := Float32.abs
  sin := Float32.sin
  cos := Float32.cos
  toRadians a := a * 0.017453292519943295
  lt a b := a < b
  le a b := a ≤ b
  totalLe a b := totalKey a ≤ totalKey b

/-- `EPSILON`. -/
def epsilon (F : Type) [F32 F] : F := 0.0001

/-- `Rgba<u8>`. -/
structure Rgba where
  red : UInt8
  green : UInt8
  blue : UInt8
  alpha : UInt8
  deriving DecidableEq, Repr

/-- `Rgba([0, 0, 0, 0])`. -/
def transparent : Rgba := ⟨0, 0, 0, 0⟩

structure RgbaImage where
  width : UInt32
  height : UInt32
  pixels : List Rgba
  filled : pixels.length = width.toNat * height.toNat
  fits : width.toNat * height.toNat * 4 < 2 ^ 64
  deriving DecidableEq, Repr

namespace RgbaImage

/-- `ImageBuffer::from_pixel`, which panics where the length of the buffer overflows
`usize`. -/
def fromPixel (width height : UInt32) (color : Rgba) : Option RgbaImage :=
  if h : width.toNat * height.toNat * 4 < 2 ^ 64 then
    some ⟨width, height, List.replicate (width.toNat * height.toNat) color,
      List.length_replicate, h⟩
  else none

/-- `RgbaImage::new`. -/
def new (width height : UInt32) : Option RgbaImage := fromPixel width height transparent

/-- `RgbaImage::default`. -/
def empty : RgbaImage := ⟨0, 0, [], rfl, by decide⟩

def index (image : RgbaImage) (x y : UInt32) : Nat := y.toNat * image.width.toNat + x.toNat

/-- `get_pixel`, which panics out of bounds. -/
def getPixel (image : RgbaImage) (x y : UInt32) : Option Rgba :=
  if x < image.width ∧ y < image.height then image.pixels[image.index x y]? else none

/-- A write through `get_pixel_mut`, which panics out of bounds. -/
def modifyPixel (image : RgbaImage) (x y : UInt32) (f : Rgba → Rgba) : Option RgbaImage :=
  if x < image.width ∧ y < image.height then
    some { image with
      pixels := image.pixels.modify (image.index x y) f
      filled := (List.length_modify ..).trans image.filled }
  else none

/-- `put_pixel`. -/
def putPixel (image : RgbaImage) (x y : UInt32) (color : Rgba) : Option RgbaImage :=
  image.modifyPixel x y fun _ => color

/-- Every pixel is set. -/
def fill (image : RgbaImage) (color : Rgba) : RgbaImage :=
  { image with
    pixels := image.pixels.map fun _ => color
    filled := (List.length_map ..).trans image.filled }

/-- What a filled image shows is its dimensions and the colour. -/
theorem fill_eq (image : RgbaImage) (color : Rgba) :
    some (image.fill color) = fromPixel image.width image.height color := by
  have hpixels : image.pixels.map (fun _ => color) =
      List.replicate (image.width.toNat * image.height.toNat) color := by
    rw [List.map_const', image.filled]
  simp only [fromPixel, fill, dif_pos image.fits, hpixels]

end RgbaImage

/-- `prepare_image`: what is there is used again where it has the right dimensions. -/
def prepareImage (image : RgbaImage) (width height : UInt32) (color : Rgba) :
    Option RgbaImage :=
  if (image.width, image.height) ≠ (width, height) then RgbaImage.fromPixel width height color
  else some (image.fill color)

/-- **A prepared image is a new one.**  Neither its pixels nor its former dimensions
are left. -/
theorem prepareImage_eq (image : RgbaImage) (width height : UInt32) (color : Rgba) :
    prepareImage image width height color = RgbaImage.fromPixel width height color := by
  by_cases h : (image.width, image.height) = (width, height)
  · obtain ⟨rfl, rfl⟩ := Prod.mk.inj h
    rw [prepareImage, if_neg (not_not_intro rfl), image.fill_eq]
  · rw [prepareImage, if_pos h]

/-- `for i in lo..hi`. -/
def forRange {σ : Type} (lo hi : UInt32) (body : UInt32 → σ → Option σ) (s : σ) : Option σ :=
  (List.range' lo.toNat (hi.toNat - lo.toNat)).foldlM (fun s i => body (UInt32.ofNat i) s) s

section Blend

variable {F : Type} [F32 F]

/-- `f32::from(value) / 255.0`. -/
def channel (F : Type) [F32 F] (value : UInt8) : F := F32.ofNat value.toNat / 255.0

/-- `(value * 255.0).round().clamp(0.0, 255.0) as u8`. -/
def toChannel (value : F) : UInt8 :=
  F32.toU8 (F32.clamp (F32.round (value * 255.0)) 0.0 255.0)

/-- `blend_pixel`. -/
def blendPixel (F : Type) [F32 F] (target source : Rgba) : Rgba :=
  let sourceAlpha : F := channel F source.alpha
  if F32.le 1.0 sourceAlpha then source
  else
    let targetAlpha : F := channel F target.alpha
    let outAlpha := sourceAlpha + targetAlpha * (1.0 - sourceAlpha)
    if F32.le outAlpha (epsilon F) then transparent
    else
      let blend (source target : UInt8) : UInt8 :=
        toChannel ((channel F source * sourceAlpha +
          channel F target * targetAlpha * (1.0 - sourceAlpha)) / outAlpha)
      ⟨blend source.red target.red, blend source.green target.green,
        blend source.blue target.blue, toChannel outAlpha⟩

end Blend

/-! ## Errors and skins -/

inductive RenderError
  | invalidPng (error : String)
  | invalidDimensions (width height : UInt32)
  | invalidOutputSize (width height : UInt32)
  | invalidPadding (padding : UInt32)
  | invalidSupersampling (supersampling : UInt8)
  deriving DecidableEq, Repr

inductive SkinModel
  | default | slim
  deriving DecidableEq, Repr

/-- The dimensions that `validate_skin_dimensions` accepts. -/
def ValidSkin (texture : RgbaImage) : Prop :=
  texture.width ≠ 0 ∧ texture.height ≠ 0 ∧ texture.width % 64 = 0 ∧
    (texture.height = texture.width ∨ texture.height * 2 = texture.width)

instance (texture : RgbaImage) : Decidable (ValidSkin texture) :=
  inferInstanceAs (Decidable (_ ∧ _ ∧ _ ∧ (_ ∨ _)))

structure DecodedSkin where
  image : RgbaImage
  valid : ValidSkin image

/-- `validate_skin_dimensions`. -/
def validateSkinDimensions (texture : RgbaImage) : Except RenderError DecodedSkin :=
  if h : ValidSkin texture then .ok ⟨texture, h⟩
  else .error (.invalidDimensions texture.width texture.height)

end AsterYggdrasil.Renderer
