import AsterYggdrasil.Renderer.Skin2d
import AsterYggdrasil.Renderer.Skin3d

/-!
# Rendering into reused buffers

A worker that renders many previews keeps its buffers: the image that it returns,
and a larger one for supersampling.  Each call prepares the buffers that it is
about to draw on, and a prepared image is a new one whatever was in it
(`prepareImage_eq`); so a call returns what it would return with buffers of its
own, after any calls before it (`workspace_renders_same`).
-/

namespace AsterYggdrasil.Renderer

open Skin2d (Skin2dPreviewOptions)
open Skin3d (SkinPreviewOptions)

structure RenderWorkspace where
  output : RgbaImage
  scratch : RgbaImage

/-- `RenderWorkspace::new`. -/
def RenderWorkspace.new : RenderWorkspace := ⟨.empty, .empty⟩

inductive TexturePreviewOptions (F : Type)
  | skin3d (options : SkinPreviewOptions F)
  | skin2d (options : Skin2dPreviewOptions)

/-- What a render call is given: the bytes of a skin, or a skin that has been decoded
before. -/
inductive Source
  | png (bytes : List UInt8)
  | decoded (skin : DecodedSkin)

structure Call (F : Type) where
  source : Source
  model : SkinModel
  options : TexturePreviewOptions F

/-- The skin that a call renders.  `decodeSkinPng` belongs to the image library. -/
def Source.texture (decodeSkinPng : List UInt8 → Except RenderError RgbaImage) :
    Source → Except RenderError RgbaImage
  | .png bytes => do
      let texture ← decodeSkinPng bytes
      let skin ← validateSkinDimensions texture
      pure skin.image
  | .decoded skin => .ok skin.image

variable {F : Type} [F32 F]

/-! ## With a workspace -/

/-- `render_skin_2d_preview_image_with_workspace`. -/
def renderSkin2dPreviewImageWithWorkspace (F : Type) [F32 F] (texture : RgbaImage)
    (model : SkinModel) (options : Skin2dPreviewOptions) (workspace : RenderWorkspace) :
    Option (Except RenderError RgbaImage × RenderWorkspace) :=
  match Skin2d.validateOutputSize options with
  | .error error => some (.error error, workspace)
  | .ok () => do
      let output ← prepareImage workspace.output options.outputWidth options.outputHeight
        (options.background.getD transparent)
      let output ← Skin2d.drawPlayerViews F texture model options output
      pure (.ok output, { workspace with output := output })

/-- `render_skin_preview_image_with_workspace`. -/
def renderSkinPreviewImageWithWorkspace (texture : RgbaImage) (model : SkinModel)
    (options : SkinPreviewOptions F) (workspace : RenderWorkspace) :
    Option (Except RenderError RgbaImage × RenderWorkspace) :=
  match Skin3d.validateOutputSize options with
  | .error error => some (.error error, workspace)
  | .ok () =>
      if options.supersampling ≤ 1 then do
        let output ← prepareImage workspace.output options.outputWidth options.outputHeight
          (options.background.getD transparent)
        let output ← Skin3d.renderSkinPreviewRgbaInto texture model options output
        pure (.ok output, { workspace with output := output })
      else
        match Skin3d.scaledOptions options with
        | .error error => some (.error error, workspace)
        | .ok scaled => do
            let scratch ← prepareImage workspace.scratch scaled.outputWidth scaled.outputHeight
              (scaled.background.getD transparent)
            let scratch ← Skin3d.renderSkinPreviewRgbaInto texture model scaled scratch
            let output ← prepareImage workspace.output options.outputWidth options.outputHeight
              transparent
            let output ← Skin3d.downsamplePremultipliedInto scratch options.outputWidth
              options.outputHeight options.supersampling.toUInt32 output
            pure (.ok output, ⟨output, scratch⟩)

section Calls

variable (decodeSkinPng : List UInt8 → Except RenderError RgbaImage)

/-- `render_preview` and `render_decoded_preview`. -/
def Call.render (call : Call F) : Option (Except RenderError RgbaImage) :=
  match call.source.texture decodeSkinPng with
  | .error error => some (.error error)
  | .ok texture =>
      match call.options with
      | .skin3d options => Skin3d.renderSkinPreviewImage texture call.model options
      | .skin2d options => Skin2d.renderSkin2dPreviewImage F texture call.model options

/-- `render_preview_with_workspace` and `render_decoded_preview_with_workspace`. -/
def Call.renderWithWorkspace (call : Call F) (workspace : RenderWorkspace) :
    Option (Except RenderError RgbaImage × RenderWorkspace) :=
  match call.source.texture decodeSkinPng with
  | .error error => some (.error error, workspace)
  | .ok texture =>
      match call.options with
      | .skin3d options => renderSkinPreviewImageWithWorkspace texture call.model options workspace
      | .skin2d options =>
          renderSkin2dPreviewImageWithWorkspace F texture call.model options workspace

/-- The results of calls on one workspace, one after the other. -/
def renderAll (workspace : RenderWorkspace) :
    List (Call F) → Option (List (Except RenderError RgbaImage))
  | [] => some []
  | call :: calls => do
      let (result, workspace) ← call.renderWithWorkspace decodeSkinPng workspace
      let results ← renderAll workspace calls
      pure (result :: results)

end Calls

/-! ## The same results -/

theorem skin2d_same (texture : RgbaImage) (model : SkinModel) (options : Skin2dPreviewOptions)
    (workspace : RenderWorkspace) :
    (renderSkin2dPreviewImageWithWorkspace F texture model options workspace).map Prod.fst =
      Skin2d.renderSkin2dPreviewImage F texture model options := by
  unfold renderSkin2dPreviewImageWithWorkspace Skin2d.renderSkin2dPreviewImage
  cases Skin2d.validateOutputSize options with
  | error error => rfl
  | ok valid =>
      simp only [prepareImage_eq, Option.bind_eq_bind, Option.map_bind, Function.comp_def]
      rfl

theorem skin3d_same (texture : RgbaImage) (model : SkinModel) (options : SkinPreviewOptions F)
    (workspace : RenderWorkspace) :
    (renderSkinPreviewImageWithWorkspace texture model options workspace).map Prod.fst =
      Skin3d.renderSkinPreviewImage texture model options := by
  unfold renderSkinPreviewImageWithWorkspace Skin3d.renderSkinPreviewImage
  cases Skin3d.validateOutputSize options with
  | error error => rfl
  | ok valid =>
      by_cases hsingle : options.supersampling ≤ 1
      · simp only [if_pos hsingle, prepareImage_eq, Option.bind_eq_bind, Option.map_bind,
          Function.comp_def]
        rfl
      · simp only [if_neg hsingle]
        cases Skin3d.scaledOptions options with
        | error error => rfl
        | ok scaled =>
            -- the scratch image is prepared for the scaled options, the output for the given ones
            simp only [prepareImage_eq, Option.bind_eq_bind, Option.map_bind, Function.comp_def]
            rfl

/-- **One call.**  Whatever the buffers hold. -/
theorem call_same (decodeSkinPng : List UInt8 → Except RenderError RgbaImage) (call : Call F)
    (workspace : RenderWorkspace) :
    (call.renderWithWorkspace decodeSkinPng workspace).map Prod.fst =
      call.render decodeSkinPng := by
  unfold Call.renderWithWorkspace Call.render
  cases call.source.texture decodeSkinPng with
  | error error => rfl
  | ok texture =>
      cases call.options with
      | skin3d options => exact skin3d_same ..
      | skin2d options => exact skin2d_same ..

theorem renderAll_eq (decodeSkinPng : List UInt8 → Except RenderError RgbaImage)
    (calls : List (Call F)) (workspace : RenderWorkspace) :
    renderAll decodeSkinPng workspace calls = calls.mapM (Call.render decodeSkinPng) := by
  induction calls generalizing workspace with
  | nil => rfl
  | cons call calls ih =>
      have hcall := call_same decodeSkinPng call workspace
      rw [List.mapM_cons, ← hcall, renderAll]
      cases call.renderWithWorkspace decodeSkinPng workspace with
      | none => rfl
      | some rendered =>
          simp only [Option.bind_eq_bind, Option.bind_some, Option.map_some, ih rendered.2]

/-- **Rendering into a workspace is rendering.**  Any calls, of both engines, with any
skins, models, sizes and options, among them calls that return errors, return on one
workspace what each of them returns with buffers of its own. -/
theorem workspace_renders_same (decodeSkinPng : List UInt8 → Except RenderError RgbaImage)
    (calls : List (Call F)) :
    renderAll decodeSkinPng .new calls = calls.mapM (Call.render decodeSkinPng) :=
  renderAll_eq decodeSkinPng calls .new

end AsterYggdrasil.Renderer
