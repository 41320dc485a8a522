import AsterYggdrasil.Renderer.Pixels
import AsterYggdrasil.Texture.Dimensions
import AsterYggdrasil.Texture.Library

/-!
# Textures: processing an upload

An upload is decoded, checked twice, drawn on its canvas and encoded again; a cape of the old
form is padded to the standard canvas.  The PNG decoder, the encoder and the hash are
third-party code, whose fields `PngCodec` collects; the hash is a SHA-256 in hex.

`none` stands for a product that overflows and for an image without a buffer.  Both end the
task that processes the file, and the request is answered with an internal error.
-/

namespace AsterYggdrasil.Textures

open Renderer

/-- `TextureProcessingResult`, with the bytes that were written and hashed. -/
structure TextureProcessingResult where
  width : Nat
  height : Nat
  fileSize : Nat
  hash : String
  bytes : List UInt8
  hash_valid : isValidTextureHash hash = true

/-- The third-party code of `sanitize_png_texture`. -/
structure PngCodec where
  /-- The dimensions of `PngDecoder::new`. -/
  header : List UInt8 → Except String (UInt32 × UInt32)
  /-- `ImageReader::decode` and `to_rgba8`. -/
  decode : List UInt8 → Except String RgbaImage
  /-- `PngEncoder::write_image`. -/
  encode : RgbaImage → Except String (List UInt8)
  sha256Hex : List UInt8 → String
  sha256Hex_valid : ∀ bytes, isValidTextureHash (sha256Hex bytes) = true

/-- The checks of `sanitize_png_texture`: of the header, and of the image that is decoded. -/
def checkedImage (codec : PngCodec) (upload : List UInt8) (textureType : TextureType)
    (maxPixels : UInt64) : Except AsterError RgbaImage := do
  let (width, height) ← (codec.header upload).mapError fun error =>
    .validation none ("decode png header: " ++ error)
  validateTexturePixelLimit width height maxPixels
  validateTextureDimensions textureType width height
  let image ← (codec.decode upload).mapError fun error =>
    .validation none ("decode png texture: " ++ error)
  validateTexturePixelLimit image.width image.height maxPixels
  validateTextureDimensions textureType image.width image.height
  pure image

/-- The canvas of `normalize_texture_canvas` for a cape of the old form. -/
def paddedCanvas (rgba : RgbaImage) (scale : Nat) : Option RgbaImage := do
  let outputWidth ← u32 (64 * scale)
  let outputHeight ← u32 (32 * scale)
  let padded ← RgbaImage.fromPixel (UInt32.ofNat outputWidth) (UInt32.ofNat outputHeight)
    transparent
  times rgba.height.toNat (fun y => times rgba.width.toNat fun x padded => do
    let color ← rgba.getPixel (UInt32.ofNat x) (UInt32.ofNat y)
    padded.putPixel (UInt32.ofNat x) (UInt32.ofNat y) color) padded

/-- `normalize_texture_canvas`. -/
def normalizeTextureCanvas (textureType : TextureType) (rgba : RgbaImage) : Option RgbaImage :=
  if textureType ≠ .cape || !isMultipleTextureSize rgba.width rgba.height 22 17 then some rgba
  else paddedCanvas rgba (rgba.width.toNat / 22)

/-- `sanitize_png_texture`. -/
def sanitizePngTexture (codec : PngCodec) (upload : List UInt8) (textureType : TextureType)
    (maxPixels : UInt64) : Option (Except AsterError TextureProcessingResult) :=
  match checkedImage codec upload textureType maxPixels with
  | .error error => some (.error error)
  | .ok image => do
      let rgba ← normalizeTextureCanvas textureType image
      match codec.encode rgba with
      | .error error => some (.error (.internal ("encode sanitized png texture: " ++ error)))
      | .ok bytes => some (.ok {
          width := rgba.width.toNat
          height := rgba.height.toNat
          fileSize := bytes.length
          hash := codec.sha256Hex bytes
          bytes := bytes
          hash_valid := codec.sha256Hex_valid bytes })

/-- `process_texture_file`, on the contents of its files.  The text of a task that has panicked
is the runtime's. -/
def processTextureFile (codec : PngCodec) (upload : List UInt8) (textureType : TextureType)
    (maxPixels : UInt64) : Except AsterError TextureProcessingResult :=
  match sanitizePngTexture codec upload textureType maxPixels with
  | some result => result
  | none => .error (.internal "process texture task: task panicked")

end AsterYggdrasil.Textures
