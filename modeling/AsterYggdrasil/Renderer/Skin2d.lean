import AsterYggdrasil.Renderer.Images

/-!
# The flat engine

A flat front view and a flat back view of the player: the UV rectangles of the
skin are copied part by part onto the output, arms and legs first and the head
last, and blended over what is there.
-/

namespace AsterYggdrasil.Renderer.Skin2d

/-- `PLAYER_HEIGHT`. -/
def playerHeight : UInt32 := 32

/-- `HEAD_WIDTH`. -/
def headWidth : UInt32 := 8

/-- `BODY_WIDTH`. -/
def bodyWidth : UInt32 := 8

/-- `BODY_HEIGHT`. -/
def bodyHeight : UInt32 := 12

/-- `LIMB_HEIGHT`. -/
def limbHeight : UInt32 := 12

/-- `LEG_WIDTH`. -/
def legWidth : UInt32 := 4

/-- `LIMB_DEPTH`. -/
def limbDepth : UInt32 := 4

structure Skin2dPreviewOptions where
  outputWidth : UInt32
  outputHeight : UInt32
  padding : UInt32
  viewSpacing : UInt32
  background : Option Rgba
  showOuterLayer : Bool
  deriving DecidableEq, Repr

/-- `saturating_sub`. -/
def saturatingSub (a b : UInt32) : UInt32 := if b ≤ a then a - b else 0

/-- `saturating_mul(2)`. -/
def saturatingDouble (a : UInt32) : UInt32 := UInt32.ofNat (min (a.toNat * 2) (2 ^ 32 - 1))

/-- `validate_output_size`. -/
def validateOutputSize (options : Skin2dPreviewOptions) : Except RenderError Unit :=
  if options.outputWidth = 0 ∨ options.outputHeight = 0 then
    .error (.invalidOutputSize options.outputWidth options.outputHeight)
  else if options.outputWidth ≤ saturatingDouble options.padding ∨
      options.outputHeight ≤ saturatingDouble options.padding then
    .error (.invalidPadding options.padding)
  else .ok ()

/-! ## Layout -/

structure FlatLayout where
  armWidth : UInt32
  playerWidth : UInt32

/-- `FlatLayout::new`. -/
def FlatLayout.new (model : SkinModel) : FlatLayout :=
  let armWidth := match model with
    | .default => 4
    | .slim => 3
  ⟨armWidth, bodyWidth + armWidth * 2⟩

inductive View
  | front | back
  deriving DecidableEq, Repr

structure UvRect where
  x : UInt32
  y : UInt32
  width : UInt32
  height : UInt32

structure FlatUvs where
  head : UvRect
  body : UvRect
  rightArm : UvRect
  leftArm : UvRect
  rightLeg : UvRect
  leftLeg : UvRect
  mirrorRightArm : Bool
  mirrorLeftArm : Bool
  mirrorRightLeg : Bool
  mirrorLeftLeg : Bool

/-- `FlatUvs::new`. -/
def FlatUvs.new (view : View) (layer : Bool) (armWidth : UInt32) (legacy : Bool) : FlatUvs :=
  let headX := if layer then 32 else 0
  let bodyY := if layer then 32 else 16
  let rightArmY := if layer then 32 else 16
  let rightLegY := if layer then 32 else 16
  let leftArmX := if layer then 48 else 32
  let leftLegX := if layer then 0 else 16
  let rightArmBackX := 44 + armWidth + limbDepth
  let leftArmBackX := leftArmX + limbDepth + armWidth + limbDepth
  match view with
  | .front => {
      head := ⟨headX + 8, 8, 8, 8⟩
      body := ⟨20, bodyY + 4, 8, 12⟩
      rightArm := ⟨44, rightArmY + 4, armWidth, 12⟩
      leftArm :=
        if legacy then ⟨44, rightArmY + 4, armWidth, 12⟩ else ⟨leftArmX + 4, 52, armWidth, 12⟩
      rightLeg := ⟨4, rightLegY + 4, 4, 12⟩
      leftLeg := if legacy then ⟨4, rightLegY + 4, 4, 12⟩ else ⟨leftLegX + 4, 52, 4, 12⟩
      mirrorRightArm := false
      mirrorLeftArm := legacy
      mirrorRightLeg := false
      mirrorLeftLeg := legacy }
  | .back => {
      head := ⟨headX + 24, 8, 8, 8⟩
      body := ⟨32, bodyY + 4, 8, 12⟩
      rightArm :=
        if legacy then ⟨rightArmBackX, rightArmY + 4, armWidth, 12⟩
        else ⟨leftArmBackX, 52, armWidth, 12⟩
      leftArm := ⟨rightArmBackX, rightArmY + 4, armWidth, 12⟩
      rightLeg := if legacy then ⟨12, rightLegY + 4, 4, 12⟩ else ⟨leftLegX + 12, 52, 4, 12⟩
      leftLeg := ⟨12, rightLegY + 4, 4, 12⟩
      mirrorRightArm := legacy
      mirrorLeftArm := false
      mirrorRightLeg := legacy
      mirrorLeftLeg := false }

/-! ## Drawing -/

structure FlatPlayerContext where
  layout : FlatLayout
  originY : UInt32
  scale : UInt32
  legacy : Bool
  layer : Bool

/-- A part of the player, in units of the model. -/
structure Part where
  uv : UvRect
  modelX : UInt32
  modelY : UInt32
  modelWidth : UInt32
  modelHeight : UInt32
  expand : UInt32
  mirrorU : Bool

/-- The parts of `draw_flat_player`, in the order in which they are drawn. -/
def flatParts (arm headExpand bodyExpand : UInt32) (view : View) (layer legacy : Bool) :
    List Part :=
  let uvs := FlatUvs.new view layer arm legacy
  [⟨uvs.rightArm, 0, 8, arm, limbHeight, bodyExpand, uvs.mirrorRightArm⟩,
    ⟨uvs.leftArm, arm + bodyWidth, 8, arm, limbHeight, bodyExpand, uvs.mirrorLeftArm⟩,
    ⟨uvs.rightLeg, arm, 20, legWidth, limbHeight, bodyExpand, uvs.mirrorRightLeg⟩,
    ⟨uvs.leftLeg, arm + legWidth, 20, legWidth, limbHeight, bodyExpand, uvs.mirrorLeftLeg⟩,
    ⟨uvs.body, arm, 8, bodyWidth, bodyHeight, bodyExpand, false⟩,
    ⟨uvs.head, arm, 0, headWidth, 8, headExpand, false⟩]

variable (F : Type) [F32 F]

/-- `draw_part`. -/
def drawPart (texture : RgbaImage) (originX originY scale : UInt32) (part : Part)
    (output : RgbaImage) : Option RgbaImage :=
  let textureScale := texture.width / 64
  let baseX := originX + part.modelX * scale
  let baseY := originY + part.modelY * scale
  let destX := saturatingSub baseX part.expand
  let destY := saturatingSub baseY part.expand
  let destWidth := part.modelWidth * scale + part.expand * 2
  let destHeight := part.modelHeight * scale + part.expand * 2
  let sourceWidth := part.modelWidth * scale
  let sourceHeight := part.modelHeight * scale
  forRange 0 destHeight (fun y output =>
    forRange 0 destWidth (fun x output => do
      let localX := x * sourceWidth / destWidth / scale
      let localY := y * sourceHeight / destHeight / scale
      let sourceLocalX := if part.mirrorU then part.modelWidth - 1 - localX else localX
      let sourceX := (part.uv.x + min sourceLocalX (part.uv.width - 1)) * textureScale
      let sourceY := (part.uv.y + min localY (part.uv.height - 1)) * textureScale
      let color ← texture.getPixel sourceX sourceY
      let outputX := destX + x
      let outputY := destY + y
      if color.alpha = 0 ∨ output.width ≤ outputX ∨ output.height ≤ outputY then pure output
      else output.modifyPixel outputX outputY fun target => blendPixel F target color) output)
    output

/-- `draw_flat_player`. -/
def drawFlatPlayer (texture : RgbaImage) (context : FlatPlayerContext) (view : View)
    (originX : UInt32) (output : RgbaImage) : Option RgbaImage :=
  let scale := context.scale
  let headExpand := if context.layer then scale / 2 else 0
  let bodyExpand := if context.layer then scale / 4 else 0
  let parts := flatParts context.layout.armWidth headExpand bodyExpand view context.layer
    context.legacy
  parts.foldlM (fun output part => drawPart F texture originX context.originY scale part output)
    output

/-- The scale of `draw_player_views`: the floored quotients of floats, and at least 1. -/
def viewScale (model : SkinModel) (options : Skin2dPreviewOptions) : UInt32 :=
  let availableWidth := saturatingSub options.outputWidth (options.padding * 2)
  let availableHeight := saturatingSub options.outputHeight (options.padding * 2)
  let availableWidth := saturatingSub availableWidth options.viewSpacing
  let totalModelWidth := (FlatLayout.new model).playerWidth * 2
  let ratio (a b : UInt32) : F := F32.ofNat a.toNat / F32.ofNat b.toNat
  F32.toU32 (F32.fmax (F32.floor (F32.fmin
    (ratio availableWidth totalModelWidth) (ratio availableHeight playerHeight))) 1.0)

/-- `draw_player_views`. -/
def drawPlayerViews (texture : RgbaImage) (model : SkinModel) (options : Skin2dPreviewOptions)
    (output : RgbaImage) : Option RgbaImage := do
  let legacy := texture.height * 2 == texture.width
  let layout := FlatLayout.new model
  let scale := viewScale F model options
  let totalModelWidth := layout.playerWidth * 2
  let renderedWidth := totalModelWidth * scale + options.viewSpacing
  let renderedHeight := playerHeight * scale
  let startX := (options.outputWidth - renderedWidth) / 2
  let startY := (options.outputHeight - renderedHeight) / 2
  let backX := startX + layout.playerWidth * scale + options.viewSpacing
  let base : FlatPlayerContext := ⟨layout, startY, scale, legacy, false⟩
  let output ← drawFlatPlayer F texture base .front startX output
  let output ← drawFlatPlayer F texture base .back backX output
  if options.showOuterLayer && !legacy then
    let layer := { base with
      layer := true
      legacy := false }
    let output ← drawFlatPlayer F texture layer .front startX output
    drawFlatPlayer F texture layer .back backX output
  else pure output

/-- `render_skin_2d_preview_image`. -/
def renderSkin2dPreviewImage (texture : RgbaImage) (model : SkinModel)
    (options : Skin2dPreviewOptions) : Option (Except RenderError RgbaImage) :=
  match validateOutputSize options with
  | .error error => some (.error error)
  | .ok () => do
      let output ← RgbaImage.fromPixel options.outputWidth options.outputHeight
        (options.background.getD transparent)
      let output ← drawPlayerViews F texture model options output
      pure (.ok output)

end AsterYggdrasil.Renderer.Skin2d
