import AsterYggdrasil.Renderer.Images

/-!
# The projected engine

The player is made of cuboids.  A camera turns and projects their faces; the faces
are drawn from far to near, each as two triangles whose pixels are sampled from the
skin and blended over what is there.  With supersampling, all of this happens on a
larger image, which is then averaged down.
-/

namespace AsterYggdrasil.Renderer.Skin3d

/-! ## Geometry -/

section Geometry

variable {F : Type} [F32 F]

structure Vec3 (F : Type) where
  x : F
  y : F
  z : F

structure Vec2 (F : Type) where
  x : F
  y : F

structure Camera (F : Type) where
  yaw : F
  pitch : F
  scale : F
  centerX : F
  centerY : F

structure ProjectedPoint (F : Type) where
  position : Vec2 F
  depth : F

/-- `Camera::project`. -/
def Camera.project (camera : Camera F) (point : Vec3 F) : ProjectedPoint F :=
  let yawSin := F32.sin camera.yaw
  let yawCos := F32.cos camera.yaw
  let pitchSin := F32.sin camera.pitch
  let pitchCos := F32.cos camera.pitch
  let x := F32.mulAdd yawCos point.x (yawSin * point.z)
  let z := F32.mulAdd (-yawSin) point.x (yawCos * point.z)
  let y := F32.mulAdd pitchCos point.y ((-pitchSin) * z)
  let depth := F32.mulAdd pitchSin point.y (pitchCos * z)
  ⟨⟨camera.centerX + x * camera.scale, camera.centerY - y * camera.scale⟩, depth⟩

structure Cuboid (F : Type) where
  min : Vec3 F
  max : Vec3 F

structure UvRect (F : Type) where
  x : F
  y : F
  width : F
  height : F

/-- Four corners of anything, in order. -/
structure Quad (α : Type) where
  a : α
  b : α
  c : α
  d : α

def Quad.map {α β : Type} (f : α → β) (q : Quad α) : Quad β := ⟨f q.a, f q.b, f q.c, f q.d⟩

def Quad.toList {α : Type} (q : Quad α) : List α := [q.a, q.b, q.c, q.d]

structure Face (F : Type) where
  corners : Quad (Vec3 F)
  uv : UvRect F
  mirrorU : Bool
  rotateUv180 : Bool

structure DrawFace (F : Type) where
  points : Quad (ProjectedPoint F)
  uv : UvRect F
  mirrorU : Bool
  rotateUv180 : Bool
  depth : F

structure BoxUv (F : Type) where
  front : UvRect F
  back : UvRect F
  left : UvRect F
  right : UvRect F
  top : UvRect F
  bottom : UvRect F

def inflate (cuboid : Cuboid F) (amount : F) : Cuboid F where
  min := ⟨cuboid.min.x - amount, cuboid.min.y - amount, cuboid.min.z - amount⟩
  max := ⟨cuboid.max.x + amount, cuboid.max.y + amount, cuboid.max.z + amount⟩

def cuboidFaces (cuboid : Cuboid F) (uv : BoxUv F) (mirrorU : Bool) : List (Face F) :=
  let ⟨x0, y0, z0⟩ := cuboid.min
  let ⟨x1, y1, z1⟩ := cuboid.max
  [⟨⟨⟨x0, y0, z1⟩, ⟨x1, y0, z1⟩, ⟨x1, y1, z1⟩, ⟨x0, y1, z1⟩⟩, uv.front, mirrorU, false⟩,
    ⟨⟨⟨x1, y0, z0⟩, ⟨x0, y0, z0⟩, ⟨x0, y1, z0⟩, ⟨x1, y1, z0⟩⟩, uv.back, mirrorU, false⟩,
    ⟨⟨⟨x1, y0, z1⟩, ⟨x1, y0, z0⟩, ⟨x1, y1, z0⟩, ⟨x1, y1, z1⟩⟩, uv.left, mirrorU, false⟩,
    ⟨⟨⟨x0, y0, z0⟩, ⟨x0, y0, z1⟩, ⟨x0, y1, z1⟩, ⟨x0, y1, z0⟩⟩, uv.right, mirrorU, false⟩,
    ⟨⟨⟨x0, y1, z1⟩, ⟨x1, y1, z1⟩, ⟨x1, y1, z0⟩, ⟨x0, y1, z0⟩⟩, uv.top, mirrorU, false⟩,
    ⟨⟨⟨x0, y0, z0⟩, ⟨x1, y0, z0⟩, ⟨x1, y0, z1⟩, ⟨x0, y0, z1⟩⟩, uv.bottom, mirrorU, true⟩]

/-! ## The player -/

structure TextureLayout (F : Type) where
  ratio : F
  legacy : Bool

def headUv (layer : Bool) : BoxUv F :=
  let x : F := if layer then 32.0 else 0.0
  { top := ⟨x + 8.0, 0.0, 8.0, 8.0⟩
    bottom := ⟨x + 16.0, 0.0, 8.0, 8.0⟩
    right := ⟨x, 8.0, 8.0, 8.0⟩
    front := ⟨x + 8.0, 8.0, 8.0, 8.0⟩
    left := ⟨x + 16.0, 8.0, 8.0, 8.0⟩
    back := ⟨x + 24.0, 8.0, 8.0, 8.0⟩ }

def bodyUv (layer : Bool) : BoxUv F :=
  let y : F := if layer then 32.0 else 16.0
  { top := ⟨20.0, y, 8.0, 4.0⟩
    bottom := ⟨28.0, y, 8.0, 4.0⟩
    right := ⟨16.0, y + 4.0, 4.0, 12.0⟩
    front := ⟨20.0, y + 4.0, 8.0, 12.0⟩
    left := ⟨28.0, y + 4.0, 4.0, 12.0⟩
    back := ⟨32.0, y + 4.0, 8.0, 12.0⟩ }

def rightArmUv (layer : Bool) (armWidth : F) : BoxUv F :=
  let y : F := if layer then 32.0 else 16.0
  let x1 := 44.0 + armWidth
  { top := ⟨44.0, y, armWidth, 4.0⟩
    bottom := ⟨x1, y, armWidth, 4.0⟩
    right := ⟨40.0, y + 4.0, 4.0, 12.0⟩
    front := ⟨44.0, y + 4.0, armWidth, 12.0⟩
    left := ⟨x1, y + 4.0, 4.0, 12.0⟩
    back := ⟨x1 + 4.0, y + 4.0, armWidth, 12.0⟩ }

def leftArmUv (layer legacy : Bool) (armWidth : F) : BoxUv F :=
  if legacy then rightArmUv layer armWidth
  else
    let x : F := if layer then 48.0 else 32.0
    let x1 := x + 4.0 + armWidth
    { top := ⟨x + 4.0, 48.0, armWidth, 4.0⟩
      bottom := ⟨x1, 48.0, armWidth, 4.0⟩
      right := ⟨x, 52.0, 4.0, 12.0⟩
      front := ⟨x + 4.0, 52.0, armWidth, 12.0⟩
      left := ⟨x1, 52.0, 4.0, 12.0⟩
      back := ⟨x1 + 4.0, 52.0, armWidth, 12.0⟩ }

def rightLegUv (layer : Bool) : BoxUv F :=
  let y : F := if layer then 32.0 else 16.0
  { top := ⟨4.0, y, 4.0, 4.0⟩
    bottom := ⟨8.0, y, 4.0, 4.0⟩
    right := ⟨0.0, y + 4.0, 4.0, 12.0⟩
    front := ⟨4.0, y + 4.0, 4.0, 12.0⟩
    left := ⟨8.0, y + 4.0, 4.0, 12.0⟩
    back := ⟨12.0, y + 4.0, 4.0, 12.0⟩ }

def leftLegUv (layer legacy : Bool) : BoxUv F :=
  if legacy then rightLegUv layer
  else
    let x : F := if layer then 0.0 else 16.0
    { top := ⟨x + 4.0, 48.0, 4.0, 4.0⟩
      bottom := ⟨x + 8.0, 48.0, 4.0, 4.0⟩
      right := ⟨x, 52.0, 4.0, 12.0⟩
      front := ⟨x + 4.0, 52.0, 4.0, 12.0⟩
      left := ⟨x + 8.0, 52.0, 4.0, 12.0⟩
      back := ⟨x + 12.0, 52.0, 4.0, 12.0⟩ }

/-- `add_cuboid_faces`: the faces that it pushes. -/
def addCuboidFaces (camera : Camera F) (cuboid : Cuboid F) (uv : BoxUv F) (mirrorU : Bool) :
    List (DrawFace F) :=
  (cuboidFaces cuboid uv mirrorU).map fun face =>
    let points := face.corners.map camera.project
    let depth := (points.toList.map ProjectedPoint.depth).foldl (· + ·) 0.0 / 4.0
    ⟨points, face.uv, face.mirrorU, face.rotateUv180, depth⟩

/-- `add_outer_layers`. -/
def addOuterLayers (camera : Camera F) (rightArmMinX rightArmMaxX leftArmMinX leftArmMaxX : F) :
    List (DrawFace F) :=
  addCuboidFaces camera (inflate ⟨⟨-4.0, 12.0, -4.0⟩, ⟨4.0, 20.0, 4.0⟩⟩ 0.5) (headUv true) false ++
  addCuboidFaces camera (inflate ⟨⟨-4.0, 0.0, -2.0⟩, ⟨4.0, 12.0, 2.0⟩⟩ 0.28) (bodyUv true) false ++
  addCuboidFaces camera
    (inflate ⟨⟨rightArmMinX, 0.0, -2.0⟩, ⟨rightArmMaxX, 12.0, 2.0⟩⟩ 0.24)
    (rightArmUv true (rightArmMaxX - rightArmMinX)) false ++
  addCuboidFaces camera
    (inflate ⟨⟨leftArmMinX, 0.0, -2.0⟩, ⟨leftArmMaxX, 12.0, 2.0⟩⟩ 0.24)
    (leftArmUv true false (leftArmMaxX - leftArmMinX)) false ++
  addCuboidFaces camera (inflate ⟨⟨-4.0, -12.0, -2.0⟩, ⟨0.0, 0.0, 2.0⟩⟩ 0.24)
    (rightLegUv true) false ++
  addCuboidFaces camera (inflate ⟨⟨0.0, -12.0, -2.0⟩, ⟨4.0, 0.0, 2.0⟩⟩ 0.24)
    (leftLegUv true false) false

/-- `collect_player_faces`. -/
def collectPlayerFaces (camera : Camera F) (model : SkinModel) (layout : TextureLayout F)
    (showOuterLayer : Bool) : List (DrawFace F) :=
  let arm : F := match model with
    | .default => 4.0
    | .slim => 3.0
  let leftArmMinX : F := 4.0
  let leftArmMaxX := 4.0 + arm
  let rightArmMinX := -4.0 - arm
  let rightArmMaxX : F := -4.0
  addCuboidFaces camera ⟨⟨-4.0, 12.0, -4.0⟩, ⟨4.0, 20.0, 4.0⟩⟩ (headUv false) false ++
  addCuboidFaces camera ⟨⟨-4.0, 0.0, -2.0⟩, ⟨4.0, 12.0, 2.0⟩⟩ (bodyUv false) false ++
  addCuboidFaces camera ⟨⟨rightArmMinX, 0.0, -2.0⟩, ⟨rightArmMaxX, 12.0, 2.0⟩⟩
    (rightArmUv false arm) false ++
  addCuboidFaces camera ⟨⟨leftArmMinX, 0.0, -2.0⟩, ⟨leftArmMaxX, 12.0, 2.0⟩⟩
    (leftArmUv false layout.legacy arm) layout.legacy ++
  addCuboidFaces camera ⟨⟨-4.0, -12.0, -2.0⟩, ⟨0.0, 0.0, 2.0⟩⟩ (rightLegUv false) false ++
  addCuboidFaces camera ⟨⟨0.0, -12.0, -2.0⟩, ⟨4.0, 0.0, 2.0⟩⟩
    (leftLegUv false layout.legacy) layout.legacy ++
  if showOuterLayer && !layout.legacy then
    addOuterLayers camera rightArmMinX rightArmMaxX leftArmMinX leftArmMaxX
  else []

end Geometry

/-! ## Options -/

/-- `MAX_SUPERSAMPLING`. -/
def maxSupersampling : UInt8 := 4

structure SkinPreviewOptions (F : Type) where
  outputWidth : UInt32
  outputHeight : UInt32
  scale : F
  pitchDegrees : F
  frontYawDegrees : F
  backYawDegrees : F
  viewSpacing : F
  horizontalOffset : F
  verticalOffset : F
  centerYRatio : F
  background : Option Rgba
  showOuterLayer : Bool
  supersampling : UInt8

/-- `checked_mul`. -/
def checkedMul (a b : UInt32) : Option UInt32 :=
  if a.toNat * b.toNat < 2 ^ 32 then some (a * b) else none

section Options

variable {F : Type} [F32 F]

/-- `validate_output_size`. -/
def validateOutputSize (options : SkinPreviewOptions F) : Except RenderError Unit :=
  if options.outputWidth = 0 ∨ options.outputHeight = 0 then
    .error (.invalidOutputSize options.outputWidth options.outputHeight)
  else if options.supersampling = 0 ∨ maxSupersampling < options.supersampling then
    .error (.invalidSupersampling options.supersampling)
  else
    let supersampling := options.supersampling.toUInt32
    if (checkedMul options.outputWidth supersampling).isNone ∨
        (checkedMul options.outputHeight supersampling).isNone then
      .error (.invalidOutputSize options.outputWidth options.outputHeight)
    else .ok ()

/-- `scaled_options`. -/
def scaledOptions (options : SkinPreviewOptions F) : Except RenderError (SkinPreviewOptions F) := do
  let supersampling := options.supersampling.toUInt32
  let factor : F := F32.ofNat supersampling.toNat
  let tooLarge := RenderError.invalidOutputSize options.outputWidth options.outputHeight
  let width ← (checkedMul options.outputWidth supersampling).elim (.error tooLarge) .ok
  let height ← (checkedMul options.outputHeight supersampling).elim (.error tooLarge) .ok
  pure { options with
    outputWidth := width
    outputHeight := height
    scale := options.scale * factor
    viewSpacing := options.viewSpacing * factor
    horizontalOffset := options.horizontalOffset * factor
    verticalOffset := options.verticalOffset * factor
    supersampling := 1 }

end Options

/-! ## Drawing -/

section Drawing

variable {F : Type} [F32 F]

/-- `collect_view_faces`. -/
def collectViewFaces (model : SkinModel) (options : SkinPreviewOptions F)
    (layout : TextureLayout F) (yawDegrees : F) : List (DrawFace F) :=
  let camera : Camera F := ⟨F32.toRadians yawDegrees, F32.toRadians options.pitchDegrees,
    options.scale, 0.0, 0.0⟩
  (collectPlayerFaces camera model layout options.showOuterLayer).mergeSort
    fun left right => F32.totalLe left.depth right.depth

structure FaceBounds (F : Type) where
  minX : F
  maxX : F
  minY : F
  maxY : F

/-- `FaceBounds::from_faces`. -/
def FaceBounds.fromFaces (faces : List (DrawFace F)) : Option (FaceBounds F) :=
  match faces.flatMap fun face => face.points.toList.map ProjectedPoint.position with
  | [] => none
  | first :: points => some (points.foldl
      (fun bounds point => ⟨F32.fmin bounds.minX point.x, F32.fmax bounds.maxX point.x,
        F32.fmin bounds.minY point.y, F32.fmax bounds.maxY point.y⟩)
      ⟨first.x, first.x, first.y, first.y⟩)

def FaceBounds.width (bounds : FaceBounds F) : F := bounds.maxX - bounds.minX

def FaceBounds.centerY (bounds : FaceBounds F) : F := (bounds.minY + bounds.maxY) / 2.0

def translatePoint (point : ProjectedPoint F) (offset : Vec2 F) : Vec2 F :=
  ⟨point.position.x + offset.x, point.position.y + offset.y⟩

def uvCorners (rect : UvRect F) (mirrorU rotate180 : Bool) : Quad (Vec2 F) :=
  let x0 := rect.x
  let x1 := rect.x + rect.width
  let (left, right) := if mirrorU then (x1, x0) else (x0, x1)
  let corners : Quad (Vec2 F) := ⟨⟨left, rect.y + rect.height⟩, ⟨right, rect.y + rect.height⟩,
    ⟨right, rect.y⟩, ⟨left, rect.y⟩⟩
  if rotate180 then ⟨corners.c, corners.d, corners.a, corners.b⟩ else corners

def edge (a b c : Vec2 F) : F :=
  F32.mulAdd (c.x - a.x) (b.y - a.y) (-((c.y - a.y) * (b.x - a.x)))

def floorMin (value : F) : UInt32 := F32.toU32 (F32.fmax (F32.floor value) 0.0)

def ceilMax (value : F) (limit : UInt32) : UInt32 :=
  F32.toU32 (F32.clamp (F32.ceil value) 0.0 (F32.ofNat limit.toNat))

def sampleTexture (texture : RgbaImage) (layout : TextureLayout F) (uv : Vec2 F) : Option Rgba :=
  let maxX := if 1 ≤ texture.width then texture.width - 1 else 0
  let maxY := if 1 ≤ texture.height then texture.height - 1 else 0
  let x := min (F32.toU32 (F32.floor (uv.x * layout.ratio))) maxX
  let y := min (F32.toU32 (F32.floor (uv.y * layout.ratio))) maxY
  texture.getPixel x y

/-- `uv_rect_has_visible_pixel`. -/
def uvRectHasVisiblePixel (texture : RgbaImage) (layout : TextureLayout F) (uv : UvRect F) :
    Option Bool :=
  let x0 := min (F32.toU32 (F32.floor (uv.x * layout.ratio))) texture.width
  let y0 := min (F32.toU32 (F32.floor (uv.y * layout.ratio))) texture.height
  let x1 := min (F32.toU32 (F32.ceil ((uv.x + uv.width) * layout.ratio))) texture.width
  let y1 := min (F32.toU32 (F32.ceil ((uv.y + uv.height) * layout.ratio))) texture.height
  forRange y0 y1 (fun y visible =>
    forRange x0 x1 (fun x visible =>
      -- the loops end at the first visible pixel
      if visible then some true
      else do
        let pixel ← texture.getPixel x y
        pure (decide (0 < pixel.alpha))) visible) false

/-- A triangle: its corners in the output, and in the skin. -/
structure Triangle (F : Type) where
  p0 : Vec2 F
  p1 : Vec2 F
  p2 : Vec2 F
  uv0 : Vec2 F
  uv1 : Vec2 F
  uv2 : Vec2 F

/-- `draw_triangle`. -/
def drawTriangle (texture : RgbaImage) (layout : TextureLayout F) (t : Triangle F)
    (output : RgbaImage) : Option RgbaImage :=
  let minX := floorMin (F32.fmin (F32.fmin t.p0.x t.p1.x) t.p2.x)
  let maxX := ceilMax (F32.fmax (F32.fmax t.p0.x t.p1.x) t.p2.x) output.width
  let minY := floorMin (F32.fmin (F32.fmin t.p0.y t.p1.y) t.p2.y)
  let maxY := ceilMax (F32.fmax (F32.fmax t.p0.y t.p1.y) t.p2.y) output.height
  let area := edge t.p0 t.p1 t.p2
  if F32.le (F32.abs area) (epsilon F) then some output
  else
    forRange minY maxY (fun y output =>
      forRange minX maxX (fun x output =>
        let point : Vec2 F := ⟨F32.ofNat x.toNat + 0.5, F32.ofNat y.toNat + 0.5⟩
        let w0 := edge t.p1 t.p2 point / area
        let w1 := edge t.p2 t.p0 point / area
        let w2 := edge t.p0 t.p1 point / area
        if F32.lt w0 (-epsilon F) || F32.lt w1 (-epsilon F) || F32.lt w2 (-epsilon F) then
          some output
        else do
          let uv : Vec2 F := ⟨
            F32.mulAdd w0 t.uv0.x (F32.mulAdd w1 t.uv1.x (w2 * t.uv2.x)),
            F32.mulAdd w0 t.uv0.y (F32.mulAdd w1 t.uv1.y (w2 * t.uv2.y))⟩
          let color ← sampleTexture texture layout uv
          if color.alpha = 0 then pure output
          else output.modifyPixel x y fun target => blendPixel F target color) output) output

/-- `draw_face`. -/
def drawFace (texture : RgbaImage) (layout : TextureLayout F) (face : DrawFace F)
    (offset : Vec2 F) (output : RgbaImage) : Option RgbaImage := do
  let uv := uvCorners face.uv face.mirrorU face.rotateUv180
  let p := face.points.map fun point => translatePoint point offset
  let output ← drawTriangle texture layout ⟨p.a, p.b, p.c, uv.a, uv.b, uv.c⟩ output
  drawTriangle texture layout ⟨p.a, p.c, p.d, uv.a, uv.c, uv.d⟩ output

/-- `draw_view`. -/
def drawView (texture : RgbaImage) (layout : TextureLayout F) (faces : List (DrawFace F))
    (offset : Vec2 F) (output : RgbaImage) : Option RgbaImage :=
  faces.foldlM (fun output face => do
    if ← uvRectHasVisiblePixel texture layout face.uv then
      drawFace texture layout face offset output
    else pure output) output

/-- `render_skin_preview_rgba_into`. -/
def renderSkinPreviewRgbaInto (texture : RgbaImage) (model : SkinModel)
    (options : SkinPreviewOptions F) (output : RgbaImage) : Option RgbaImage :=
  let centerY := F32.ofNat options.outputHeight.toNat * F32.clamp options.centerYRatio 0.0 1.0 +
    options.verticalOffset
  let layout : TextureLayout F :=
    ⟨F32.ofNat texture.width.toNat / 64.0, texture.height * 2 == texture.width⟩
  let backFaces := collectViewFaces model options layout options.backYawDegrees
  let frontFaces := collectViewFaces model options layout options.frontYawDegrees
  match FaceBounds.fromFaces backFaces, FaceBounds.fromFaces frontFaces with
  | some back, some front => do
      let spacing := F32.fmax options.viewSpacing 0.0
      let totalWidth := back.width + spacing + front.width
      let startX := F32.ofNat options.outputWidth.toNat * 0.5 + options.horizontalOffset -
        totalWidth / 2.0
      let backOffset : Vec2 F := ⟨startX - back.minX, centerY - back.centerY⟩
      let frontOffset : Vec2 F :=
        ⟨startX + back.width + spacing - front.minX, centerY - front.centerY⟩
      let output ← drawView texture layout backFaces backOffset output
      drawView texture layout frontFaces frontOffset output
  | _, _ => some output

end Drawing

/-! ## Supersampling -/

def divRound (value divisor : UInt32) : UInt32 := (value + divisor / 2) / divisor

/-- The sums of `downsample_premultiplied_into` for one pixel. -/
structure Sums where
  alpha : UInt32
  red : UInt32
  green : UInt32
  blue : UInt32

def Sums.add (sums : Sums) (pixel : Rgba) : Sums :=
  let alpha := pixel.alpha.toUInt32
  ⟨sums.alpha + alpha, sums.red + pixel.red.toUInt32 * alpha,
    sums.green + pixel.green.toUInt32 * alpha, sums.blue + pixel.blue.toUInt32 * alpha⟩

/-- `as u8` after `min(255)`. -/
def capped (value : UInt32) : UInt8 := (min value 255).toUInt8

def Sums.average (sums : Sums) (samples : UInt32) : Rgba :=
  if sums.alpha = 0 then transparent
  else ⟨capped (divRound sums.red sums.alpha), capped (divRound sums.green sums.alpha),
    capped (divRound sums.blue sums.alpha), capped (divRound sums.alpha samples)⟩

/-- `downsample_premultiplied_into`. -/
def downsamplePremultipliedInto (source : RgbaImage) (outputWidth outputHeight factor : UInt32)
    (output : RgbaImage) : Option RgbaImage :=
  forRange 0 outputHeight (fun y output =>
    forRange 0 outputWidth (fun x output => do
      let sums ← forRange 0 factor (fun sampleY (sums : Sums) =>
        forRange 0 factor (fun sampleX (sums : Sums) => do
          let pixel ← source.getPixel (x * factor + sampleX) (y * factor + sampleY)
          pure (sums.add pixel)) sums) ⟨0, 0, 0, 0⟩
      output.putPixel x y (sums.average (factor * factor))) output) output

section Render

variable {F : Type} [F32 F]

/-- `new_output`. -/
def newOutput (options : SkinPreviewOptions F) : Option RgbaImage :=
  RgbaImage.fromPixel options.outputWidth options.outputHeight
    (options.background.getD transparent)

/-- `render_skin_preview_image`. -/
def renderSkinPreviewImage (texture : RgbaImage) (model : SkinModel)
    (options : SkinPreviewOptions F) : Option (Except RenderError RgbaImage) :=
  match validateOutputSize options with
  | .error error => some (.error error)
  | .ok () =>
      if options.supersampling ≤ 1 then do
        let output ← newOutput options
        let output ← renderSkinPreviewRgbaInto texture model options output
        pure (.ok output)
      else
        match scaledOptions options with
        | .error error => some (.error error)
        | .ok scaled => do
            let highRes ← newOutput scaled
            let highRes ← renderSkinPreviewRgbaInto texture model scaled highRes
            let output ← RgbaImage.new options.outputWidth options.outputHeight
            let output ← downsamplePremultipliedInto highRes options.outputWidth
              options.outputHeight options.supersampling.toUInt32 output
            pure (.ok output)

end Render

end AsterYggdrasil.Renderer.Skin3d
