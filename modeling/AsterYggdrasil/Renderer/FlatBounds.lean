import AsterYggdrasil.Renderer.Pixels
import AsterYggdrasil.Renderer.Skin2d

/-!
# The flat engine with checked arithmetic

`draw_player_views` again, now with every operation on `u32`s checked and with the scale
computed exactly; a result exists where nothing overflows, no difference is negative, no
divisor is zero and no pixel is read or written outside of its image.

The scale is at least 1, also when two views of that scale do not fit.  The positions
behind it are plain differences.  **`drawPlayerViews_checked_iff`** says for which options
the engine draws every accepted skin.
-/

namespace AsterYggdrasil.Renderer.Skin2d

/-! ## Drawing with checks -/

/-- Where a part is drawn, and how large. -/
structure Placement where
  textureScale : Nat
  destX : Nat
  destY : Nat
  destWidth : Nat
  destHeight : Nat
  sourceWidth : Nat
  sourceHeight : Nat

/-- The first lines of `draw_part`. -/
def placePart (texture : RgbaImage) (originX originY scale : Nat) (part : Part) :
    Option Placement := do
  let textureScale ← quotient texture.width.toNat 64
  let baseX ← u32 (originX + (← u32 (part.modelX.toNat * scale)))
  let baseY ← u32 (originY + (← u32 (part.modelY.toNat * scale)))
  let destWidth ← u32 ((← u32 (part.modelWidth.toNat * scale)) +
    (← u32 (part.expand.toNat * 2)))
  let destHeight ← u32 ((← u32 (part.modelHeight.toNat * scale)) +
    (← u32 (part.expand.toNat * 2)))
  let sourceWidth ← u32 (part.modelWidth.toNat * scale)
  let sourceHeight ← u32 (part.modelHeight.toNat * scale)
  some ⟨textureScale, baseX - part.expand.toNat, baseY - part.expand.toNat, destWidth,
    destHeight, sourceWidth, sourceHeight⟩

/-- A position of the expanded part, in units of the model. -/
def localOffset (i source dest scale : Nat) : Option Nat := do
  let sourceSpace ← quotient (← u32 (i * source)) dest
  quotient sourceSpace scale

/-- `source_local_x`. -/
def sourceLocalX (part : Part) (localX : Nat) : Option Nat :=
  if part.mirrorU then (minus part.modelWidth.toNat 1).bind fun last => minus last localX
  else some localX

/-- A coordinate of a texel: an offset inside an interval of the UV rectangle. -/
def texel (start size offset textureScale : Nat) : Option Nat := do
  let last ← minus size 1
  let unit ← u32 (start + min offset last)
  u32 (unit * textureScale)

/-- The texel of one pixel of a part. -/
def sourcePixel (scale : Nat) (part : Part) (p : Placement) (y x : Nat) :
    Option (Nat × Nat) := do
  let localX ← localOffset x p.sourceWidth p.destWidth scale
  let localY ← localOffset y p.sourceHeight p.destHeight scale
  let localX ← sourceLocalX part localX
  let sourceX ← texel part.uv.x.toNat part.uv.width.toNat localX p.textureScale
  let sourceY ← texel part.uv.y.toNat part.uv.height.toNat localY p.textureScale
  some (sourceX, sourceY)

section Drawing

variable (F : Type) [F32 F]

/-- The write of a round; what lies outside of the output is skipped. -/
def writePixel (p : Placement) (y x : Nat) (color : Rgba) (output : RgbaImage) :
    Option RgbaImage := do
  let outputX ← u32 (p.destX + x)
  let outputY ← u32 (p.destY + y)
  if output.width.toNat ≤ outputX ∨ output.height.toNat ≤ outputY then pure output
  else output.modifyPixel (UInt32.ofNat outputX) (UInt32.ofNat outputY) fun target =>
    blendPixel F target color

/-- One round of the loops of `draw_part`. -/
def drawPixel (texture : RgbaImage) (scale : Nat) (part : Part) (p : Placement) (y x : Nat)
    (output : RgbaImage) : Option RgbaImage := do
  let source ← sourcePixel scale part p y x
  let color ← texture.getPixel (UInt32.ofNat source.1) (UInt32.ofNat source.2)
  if color.alpha = 0 then pure output else writePixel F p y x color output

/-- `draw_part`. -/
def drawPartChecked (texture : RgbaImage) (originX originY scale : Nat) (part : Part)
    (output : RgbaImage) : Option RgbaImage := do
  let p ← placePart texture originX originY scale part
  times p.destHeight (fun y => times p.destWidth (drawPixel F texture scale part p y)) output

/-- The loop over the parts. -/
def drawPartsChecked (texture : RgbaImage) (originX originY scale : Nat) :
    List Part → RgbaImage → Option RgbaImage
  | [], output => some output
  | part :: parts, output => do
      let output ← drawPartChecked F texture originX originY scale part output
      drawPartsChecked texture originX originY scale parts output

/-- `draw_flat_player`. -/
def drawFlatPlayerChecked (texture : RgbaImage) (arm : UInt32) (originY scale : Nat)
    (legacy layer : Bool) (view : View) (originX : Nat) (output : RgbaImage) :
    Option RgbaImage :=
  let headExpand := if layer then scale / 2 else 0
  let bodyExpand := if layer then scale / 4 else 0
  drawPartsChecked F texture originX originY scale
    (flatParts arm (UInt32.ofNat headExpand) (UInt32.ofNat bodyExpand) view layer legacy) output

end Drawing

/-- The width of both players without the space between them. -/
def modelWidth (model : SkinModel) : Nat := (FlatLayout.new model).playerWidth.toNat * 2

/-- The scale: the floored quotients, and at least 1. -/
def exactScale (options : Skin2dPreviewOptions) (model : SkinModel) : Nat :=
  let padding := options.padding.toNat * 2
  let availableWidth := options.outputWidth.toNat - padding - options.viewSpacing.toNat
  let availableHeight := options.outputHeight.toNat - padding
  max (min (availableWidth / modelWidth model) (availableHeight / 32)) 1

/-- Where the two views are drawn. -/
structure ViewPlacement where
  startX : Nat
  startY : Nat
  backX : Nat

/-- The positions that `draw_player_views` computes. -/
def placeViews (options : Skin2dPreviewOptions) (model : SkinModel) : Option ViewPlacement := do
  let _ ← u32 (options.padding.toNat * 2)
  let scale := exactScale options model
  let renderedWidth ← u32 ((← u32 (modelWidth model * scale)) + options.viewSpacing.toNat)
  let renderedHeight ← u32 (32 * scale)
  let startX := (← minus options.outputWidth.toNat renderedWidth) / 2
  let startY := (← minus options.outputHeight.toNat renderedHeight) / 2
  let playerWidth ← u32 ((FlatLayout.new model).playerWidth.toNat * scale)
  let backX ← u32 ((← u32 (startX + playerWidth)) + options.viewSpacing.toNat)
  some ⟨startX, startY, backX⟩

/-- `draw_player_views`. -/
def drawPlayerViewsChecked (F : Type) [F32 F] (texture : RgbaImage) (model : SkinModel)
    (options : Skin2dPreviewOptions) (output : RgbaImage) : Option RgbaImage := do
  let doubled ← u32 (texture.height.toNat * 2)
  let legacy := doubled == texture.width.toNat
  let views ← placeViews options model
  let draw := drawFlatPlayerChecked F texture (FlatLayout.new model).armWidth views.startY
    (exactScale options model)
  let output ← draw legacy false .front views.startX output
  let output ← draw legacy false .back views.backX output
  if options.showOuterLayer && !legacy then do
    let output ← draw false true .front views.startX output
    draw false true .back views.backX output
  else some output

/-! ## What the parts have in common -/

/-- The skins that `validate_skin_dimensions` is there for: square, or half as high. -/
def AcceptedSkin (texture : RgbaImage) (legacy : Bool) : Prop :=
  ∃ k, 0 < k ∧ texture.width.toNat = 64 * k ∧
    texture.height.toNat = (if legacy then 32 else 64) * k

/-- A part that lies inside the texture and inside the player. -/
def Part.sound (rows playerWidth : Nat) (part : Part) : Bool :=
  0 < part.uv.width.toNat && 0 < part.uv.height.toNat &&
    part.uv.x.toNat + part.uv.width.toNat ≤ 64 &&
    part.uv.y.toNat + part.uv.height.toNat ≤ rows &&
    0 < part.modelWidth.toNat && part.modelWidth.toNat ≤ 12 &&
    0 < part.modelHeight.toNat && part.modelHeight.toNat ≤ 12 &&
    part.modelX.toNat + part.modelWidth.toNat ≤ playerWidth &&
    part.modelY.toNat + part.modelHeight.toNat ≤ 32

theorem flatParts_sound (model : SkinModel) (headExpand bodyExpand : UInt32) (view : View)
    (layer legacy : Bool) (h : layer = true → legacy = false) :
    (flatParts (FlatLayout.new model).armWidth headExpand bodyExpand view layer legacy).all
      (Part.sound (if legacy then 32 else 64) (FlatLayout.new model).playerWidth.toNat) =
        true := by
  cases layer with
  | true =>
      rw [h rfl]
      cases model <;> cases view <;> rfl
  | false => cases model <;> cases view <;> cases legacy <;> rfl

/-- The outer layer is expanded: by a quarter of the scale, the head by a half. -/
theorem flatParts_expand {arm headExpand bodyExpand : UInt32} {view : View}
    {layer legacy : Bool} {part : Part}
    (h : part ∈ flatParts arm headExpand bodyExpand view layer legacy) :
    part.expand = bodyExpand ∨
      (part.expand = headExpand ∧ part.modelX = arm ∧ part.modelY = 0 ∧ part.modelWidth = 8 ∧
        part.modelHeight = 8) := by
  simp only [flatParts, List.mem_cons, List.not_mem_nil, or_false] at h
  rcases h with rfl | rfl | rfl | rfl | rfl | rfl
  · exact Or.inl rfl
  · exact Or.inl rfl
  · exact Or.inl rfl
  · exact Or.inl rfl
  · exact Or.inl rfl
  · exact Or.inr ⟨rfl, rfl, rfl, rfl, rfl⟩

/-! ## One part -/

theorem writePixel_ok (F : Type) [F32 F] {p : Placement} {y x : Nat} (color : Rgba)
    (output : RgbaImage) (hx : p.destX + x < 2 ^ 32) (hy : p.destY + y < 2 ^ 32) :
    ∃ output', writePixel F p y x color output = some output' ∧ SameSize output output' := by
  simp only [writePixel, u32_of_lt hx, u32_of_lt hy, Option.bind_eq_bind, Option.bind_some]
  by_cases hskip : output.width.toNat ≤ p.destX + x ∨ output.height.toNat ≤ p.destY + y
  · rw [if_pos hskip]
    exact ⟨output, rfl, rfl, rfl⟩
  · rw [if_neg hskip]
    obtain ⟨hwidth, hheight⟩ := not_or.mp hskip
    have hinside : UInt32.ofNat (p.destX + x) < output.width ∧
        UInt32.ofNat (p.destY + y) < output.height :=
      ⟨(ofNat_lt_iff hx).mpr (Nat.not_le.mp hwidth), (ofNat_lt_iff hy).mpr (Nat.not_le.mp hheight)⟩
    rw [RgbaImage.modifyPixel, if_pos hinside]
    exact ⟨_, rfl, rfl, rfl⟩

/-- The room that a part needs. -/
structure Part.HasRoom (part : Part) (originX originY scale : Nat) : Prop where
  bound : 0 < scale ∧ scale ≤ 5461
  expand : part.expand.toNat ≤ scale
  right : originX + (part.modelX.toNat + part.modelWidth.toNat) * scale + part.expand.toNat ≤
    2 ^ 32
  bottom : originY + (part.modelY.toNat + part.modelHeight.toNat) * scale + part.expand.toNat ≤
    2 ^ 32
  width : (part.modelWidth.toNat * scale + part.expand.toNat * 2 - 1) *
    (part.modelWidth.toNat * scale) < 2 ^ 32
  height : (part.modelHeight.toNat * scale + part.expand.toNat * 2 - 1) *
    (part.modelHeight.toNat * scale) < 2 ^ 32

/-- The product of a position and the source is at most that of the last one. -/
theorem mul_lt_of_last {x dest source : Nat} (hx : x < dest)
    (h : (dest - 1) * source < 2 ^ 32) : x * source < 2 ^ 32 :=
  Nat.lt_of_le_of_lt (Nat.mul_le_mul_right source (Nat.le_sub_one_of_lt hx)) h

/-- A position lies inside the part. -/
theorem localOffset_ok {i n scale dest : Nat} (hscale : 0 < scale) (hi : i < dest) (hn : 0 < n)
    (hmul : (dest - 1) * (n * scale) < 2 ^ 32) :
    ∃ offset, localOffset i (n * scale) dest scale = some offset ∧ offset < n := by
  have hdest : 0 < dest := Nat.lt_of_le_of_lt (Nat.zero_le i) hi
  have hspace : i * (n * scale) / dest < n * scale := by
    rw [Nat.div_lt_iff_lt_mul hdest, Nat.mul_comm (n * scale)]
    exact Nat.mul_lt_mul_of_pos_right hi (Nat.mul_pos hn hscale)
  refine ⟨i * (n * scale) / dest / scale, ?_, (Nat.div_lt_iff_lt_mul hscale).mpr hspace⟩
  simp only [localOffset, u32_of_lt (mul_lt_of_last hi hmul), quotient_of_pos hdest,
    quotient_of_pos hscale, Option.bind_eq_bind, Option.bind_some]

theorem sourceLocalX_ok {part : Part} {localX : Nat} (h : localX < part.modelWidth.toNat) :
    ∃ offset, sourceLocalX part localX = some offset := by
  unfold sourceLocalX
  split
  · rw [minus_of_le (by omega), Option.bind_some, minus_of_le (by omega)]
    exact ⟨_, rfl⟩
  · exact ⟨_, rfl⟩

/-- **A texel lies inside the texture.** -/
theorem texel_ok {start size units k : Nat} (offset : Nat) (hsize : 0 < size)
    (hunits : start + size ≤ units) (hk : 0 < k) (h32 : units * k < 2 ^ 32) :
    ∃ t, texel start size offset k = some t ∧ t < units * k := by
  have hunit : start + min offset (size - 1) < units := by omega
  have ht := Nat.mul_lt_mul_of_pos_right hunit hk
  have hle : start + min offset (size - 1) ≤ (start + min offset (size - 1)) * k :=
    Nat.le_mul_of_pos_right _ hk
  refine ⟨_, ?_, ht⟩
  simp only [texel, Option.bind_eq_bind]
  rw [minus_of_le (by omega), Option.bind_some, u32_of_lt (by omega), Option.bind_some,
    u32_of_lt (by omega)]

/-- Where a part with room is drawn. -/
def placed (texture : RgbaImage) (originX originY scale : Nat) (part : Part) : Placement where
  textureScale := texture.width.toNat / 64
  destX := originX + part.modelX.toNat * scale - part.expand.toNat
  destY := originY + part.modelY.toNat * scale - part.expand.toNat
  destWidth := part.modelWidth.toNat * scale + part.expand.toNat * 2
  destHeight := part.modelHeight.toNat * scale + part.expand.toNat * 2
  sourceWidth := part.modelWidth.toNat * scale
  sourceHeight := part.modelHeight.toNat * scale

theorem placePart_ok {texture : RgbaImage} {originX originY scale rows playerWidth : Nat}
    {part : Part} (hsound : part.sound rows playerWidth = true)
    (hroom : part.HasRoom originX originY scale) :
    placePart texture originX originY scale part =
      some (placed texture originX originY scale part) := by
  obtain ⟨⟨hpos, hbound⟩, hexpand, hright, hbottom, -, -⟩ := hroom
  simp only [Part.sound, Bool.and_eq_true, decide_eq_true_eq] at hsound
  obtain ⟨⟨⟨⟨⟨-, hwidth⟩, hwidth'⟩, hheight⟩, hheight'⟩, -⟩ := hsound.1
  rw [Nat.add_mul] at hright hbottom
  have hw : part.modelWidth.toNat * scale ≤ 12 * 5461 := Nat.mul_le_mul hwidth' hbound
  have hh : part.modelHeight.toNat * scale ≤ 12 * 5461 := Nat.mul_le_mul hheight' hbound
  have hw' : 0 < part.modelWidth.toNat * scale := Nat.mul_pos hwidth hpos
  have hh' : 0 < part.modelHeight.toNat * scale := Nat.mul_pos hheight hpos
  simp only [placePart, placed, quotient_of_pos (by decide : 0 < 64), Option.bind_eq_bind,
    Option.bind_some]
  generalize part.modelWidth.toNat * scale = w at *
  generalize part.modelHeight.toNat * scale = h at *
  generalize part.modelX.toNat * scale = mx at *
  generalize part.modelY.toNat * scale = my at *
  rw [u32_of_lt (n := mx) (by omega), u32_of_lt (n := my) (by omega), u32_of_lt (n := w) (by omega),
    u32_of_lt (n := h) (by omega), u32_of_lt (n := part.expand.toNat * 2) (by omega)]
  simp only [Option.bind_some]
  rw [u32_of_lt (n := originX + mx) (by omega), u32_of_lt (n := originY + my) (by omega),
    u32_of_lt (n := w + part.expand.toNat * 2) (by omega),
    u32_of_lt (n := h + part.expand.toNat * 2) (by omega)]
  rfl

/-- **Every texel that is read is in the texture.** -/
theorem sourcePixel_ok {scale rows playerWidth k y x : Nat} {part : Part} {p : Placement}
    (hsound : part.sound rows playerWidth = true) (hscale : 0 < scale)
    (hwidth : p.sourceWidth = part.modelWidth.toNat * scale)
    (hheight : p.sourceHeight = part.modelHeight.toNat * scale)
    (htexture : p.textureScale = k) (hk : 0 < k) (hk32 : 64 * k < 2 ^ 32)
    (hrows : rows ≤ 64) (hx : x < p.destWidth) (hy : y < p.destHeight)
    (hmulX : (p.destWidth - 1) * p.sourceWidth < 2 ^ 32)
    (hmulY : (p.destHeight - 1) * p.sourceHeight < 2 ^ 32) :
    ∃ source, sourcePixel scale part p y x = some source ∧ source.1 < 64 * k ∧
      source.2 < rows * k := by
  simp only [Part.sound, Bool.and_eq_true, decide_eq_true_eq] at hsound
  obtain ⟨⟨⟨⟨⟨⟨⟨⟨⟨huvWidth, huvHeight⟩, huvX⟩, huvY⟩, hw⟩, -⟩, hh⟩, -⟩, -⟩, -⟩ := hsound
  rw [hwidth] at hmulX
  rw [hheight] at hmulY
  have hrows32 : rows * k < 2 ^ 32 := Nat.lt_of_le_of_lt (Nat.mul_le_mul_right k hrows) hk32
  obtain ⟨localX, hlocalX, hlt⟩ := localOffset_ok hscale hx hw hmulX
  obtain ⟨localY, hlocalY, -⟩ := localOffset_ok hscale hy hh hmulY
  obtain ⟨offset, hoffset⟩ := sourceLocalX_ok hlt
  obtain ⟨sourceX, hsourceX, hX⟩ := texel_ok offset huvWidth huvX hk hk32
  obtain ⟨sourceY, hsourceY, hY⟩ := texel_ok localY huvHeight huvY hk hrows32
  refine ⟨(sourceX, sourceY), ?_, hX, hY⟩
  simp only [sourcePixel, hwidth, hheight, htexture, hlocalX, hlocalY, hoffset, hsourceX, hsourceY,
    Option.bind_eq_bind, Option.bind_some]

/-- **One part is drawn** where it has room. -/
theorem drawPartChecked_ok {F : Type} [F32 F] {texture : RgbaImage} {legacy : Bool}
    {originX originY scale playerWidth : Nat} {part : Part} (output : RgbaImage)
    (htexture : AcceptedSkin texture legacy)
    (hsound : part.sound (if legacy then 32 else 64) playerWidth = true)
    (hroom : part.HasRoom originX originY scale) :
    ∃ output', drawPartChecked F texture originX originY scale part output = some output' ∧
      SameSize output output' := by
  obtain ⟨k, hk, hwidth, hheight⟩ := htexture
  have hk32 : 64 * k < 2 ^ 32 := hwidth ▸ texture.width.toNat_lt
  have hrows : (if legacy then 32 else 64) ≤ 64 := by
    split <;> decide
  have hscale : texture.width.toNat / 64 = k := by omega
  simp only [drawPartChecked, placePart_ok hsound hroom, Option.bind_eq_bind, Option.bind_some]
  obtain ⟨hbound, hexpand, hright, hbottom, hmulX, hmulY⟩ := hroom
  have hsize := hsound
  simp only [Part.sound, Bool.and_eq_true, decide_eq_true_eq] at hsize
  have hw : part.modelWidth.toNat * scale ≤ 12 * 5461 :=
    Nat.mul_le_mul hsize.1.1.1.1.2 hbound.2
  have hh : part.modelHeight.toNat * scale ≤ 12 * 5461 :=
    Nat.mul_le_mul hsize.1.1.2 hbound.2
  rw [Nat.add_mul] at hright hbottom
  refine times_ok (I := fun _ output' => SameSize output output') (fun y hy s hs => ?_) ⟨rfl, rfl⟩
  refine times_ok (I := fun _ output' => SameSize output output') (fun x hx s hs => ?_) hs
  obtain ⟨source, hsource, hX, hY⟩ := sourcePixel_ok
    (p := placed texture originX originY scale part) hsound hbound.1 rfl rfl hscale hk hk32 hrows
    hx hy hmulX hmulY
  rw [← hwidth] at hX
  rw [← hheight] at hY
  simp only [drawPixel, hsource, getPixel_of_lt hX hY, Option.bind_eq_bind, Option.bind_some]
  have hdestX : (placed texture originX originY scale part).destX + x < 2 ^ 32 := by
    simp only [placed] at hx ⊢
    omega
  have hdestY : (placed texture originX originY scale part).destY + y < 2 ^ 32 := by
    simp only [placed] at hy ⊢
    omega
  split
  · exact ⟨s, rfl, hs⟩
  · obtain ⟨s', hwrite, hs'⟩ := writePixel_ok F (texture.pixelAt source.1 source.2) s hdestX hdestY
    exact ⟨s', hwrite, hs'.1.trans hs.1, hs'.2.trans hs.2⟩

/-- All parts are drawn where each has room. -/
theorem drawPartsChecked_ok {F : Type} [F32 F] {texture : RgbaImage} {legacy : Bool}
    {originX originY scale playerWidth : Nat} {parts : List Part} (output : RgbaImage)
    (htexture : AcceptedSkin texture legacy)
    (hsound : parts.all (Part.sound (if legacy then 32 else 64) playerWidth) = true)
    (hroom : ∀ part ∈ parts, part.HasRoom originX originY scale) :
    ∃ output', drawPartsChecked F texture originX originY scale parts output = some output' ∧
      SameSize output output' := by
  induction parts generalizing output with
  | nil => exact ⟨output, rfl, rfl, rfl⟩
  | cons part parts ih =>
      rw [List.all_cons, Bool.and_eq_true] at hsound
      obtain ⟨output₁, hfirst, hsame⟩ := drawPartChecked_ok (F := F) output htexture hsound.1
        (hroom part List.mem_cons_self)
      obtain ⟨output₂, hrest, hsame'⟩ := ih output₁ hsound.2 fun part' hpart' =>
        hroom part' (List.mem_cons_of_mem part hpart')
      refine ⟨output₂, ?_, hsame'.1.trans hsame.1, hsame'.2.trans hsame.2⟩
      rw [drawPartsChecked, hfirst]
      exact hrest

/-! ## One view -/

/-- The scales at which no product of the loops overflows. -/
def ScaleFits (layer : Bool) (scale : Nat) : Prop :=
  0 < scale ∧ scale ≤ if layer then 5351 else 5461

/-- The room that a view needs. -/
def ViewHasRoom (model : SkinModel) (layer : Bool) (originX originY scale : Nat) : Prop :=
  originX + (FlatLayout.new model).playerWidth.toNat * scale +
      (if layer then scale / 4 else 0) ≤ 2 ^ 32 ∧
    originY + 32 * scale + (if layer then scale / 4 else 0) ≤ 2 ^ 32

/-- The largest product of a part. -/
theorem mul_last_lt {dest source d n : Nat} (hdest : dest ≤ d) (hsource : source ≤ n)
    (h : (d - 1) * n < 2 ^ 32) : (dest - 1) * source < 2 ^ 32 :=
  Nat.lt_of_le_of_lt (Nat.mul_le_mul (Nat.sub_le_sub_right hdest 1) hsource) h

/-- **A view with room has room for its parts.** -/
theorem hasRoom_of_view {model : SkinModel} {view : View} {layer legacy : Bool}
    {originX originY scale rows : Nat} {part : Part} (hscale : ScaleFits layer scale)
    (hview : ViewHasRoom model layer originX originY scale)
    (hpart : part ∈ flatParts (FlatLayout.new model).armWidth
      (UInt32.ofNat (if layer then scale / 2 else 0))
      (UInt32.ofNat (if layer then scale / 4 else 0)) view layer legacy)
    (hsound : part.sound rows (FlatLayout.new model).playerWidth.toNat = true) :
    part.HasRoom originX originY scale := by
  obtain ⟨hpos, hbound⟩ := hscale
  obtain ⟨hright, hbottom⟩ := hview
  simp only [Part.sound, Bool.and_eq_true, decide_eq_true_eq] at hsound
  obtain ⟨⟨⟨⟨⟨-, hw⟩, -⟩, hh⟩, hright'⟩, hbottom'⟩ := hsound
  have hbound' : scale ≤ 5461 := Nat.le_trans hbound (by split <;> decide)
  rcases flatParts_expand hpart with hexpand | ⟨hexpand, hmodelX, hmodelY, hwidth, hheight⟩
  · -- arms, legs and body
    have hexpand' : part.expand.toNat = if layer then scale / 4 else 0 := by
      rw [hexpand]
      exact toNat_ofNat (by split <;> omega)
    have hx := Nat.mul_le_mul_right scale hright'
    have hy := Nat.mul_le_mul_right scale hbottom'
    have hws : part.modelWidth.toNat * scale ≤ 12 * scale := Nat.mul_le_mul_right scale hw
    have hhs : part.modelHeight.toNat * scale ≤ 12 * scale := Nat.mul_le_mul_right scale hh
    have hlast : ∀ n, n ≤ 12 * scale →
        (n + part.expand.toNat * 2 - 1) * n < 2 ^ 32 := by
      intro n hn
      rw [hexpand']
      cases layer with
      | true =>
          simp only [if_true] at hbound ⊢
          exact mul_last_lt (d := 66886) (n := 64212) (by omega) (by omega) (by decide)
      | false =>
          simp only [Bool.false_eq_true, if_false] at hbound ⊢
          exact mul_last_lt (d := 65532) (n := 65532) (by omega) (by omega) (by decide)
    refine ⟨⟨hpos, hbound'⟩, ?_, ?_, ?_, hlast _ hws, hlast _ hhs⟩
    · rw [hexpand']
      split <;> omega
    · rw [hexpand']
      omega
    · rw [hexpand']
      omega
  · -- the head
    have hexpand' : part.expand.toNat ≤ scale / 2 := by
      rw [hexpand, toNat_ofNat (by split <;> omega)]
      split
      · exact Nat.le_refl _
      · exact Nat.zero_le _
    have hwidth' : part.modelWidth.toNat = 8 := by rw [hwidth]; rfl
    have hheight' : part.modelHeight.toNat = 8 := by rw [hheight]; rfl
    have hmodelY' : part.modelY.toNat = 0 := by rw [hmodelY]; rfl
    have hplayer : part.modelX.toNat + 8 + 3 ≤ (FlatLayout.new model).playerWidth.toNat := by
      rw [hmodelX]
      cases model <;> decide
    have hx := Nat.mul_le_mul_right scale hplayer
    rw [Nat.add_mul, Nat.add_mul] at hx
    have hlast : (8 * scale + part.expand.toNat * 2 - 1) * (8 * scale) < 2 ^ 32 :=
      mul_last_lt (d := 9 * 5461) (n := 8 * 5461) (by omega) (by omega) (by decide)
    refine ⟨⟨hpos, hbound'⟩, by omega, ?_, ?_, ?_, ?_⟩
    · rw [hwidth', Nat.add_mul]
      omega
    · rw [hheight', hmodelY']
      omega
    · rw [hwidth']
      exact hlast
    · rw [hheight']
      exact hlast

/-- **One view is drawn** where it has room. -/
theorem drawFlatPlayerChecked_ok {F : Type} [F32 F] {texture : RgbaImage}
    {model : SkinModel} {layer legacy accepted : Bool} {originX originY scale : Nat}
    (view : View) (output : RgbaImage) (htexture : AcceptedSkin texture accepted) (hlayer : layer = true → legacy = false)
    (hlegacy : legacy = accepted) (hscale : ScaleFits layer scale)
    (hview : ViewHasRoom model layer originX originY scale) :
    ∃ output', drawFlatPlayerChecked F texture (FlatLayout.new model).armWidth originY scale legacy
        layer view originX output = some output' ∧ SameSize output output' := by
  subst hlegacy
  have hsound := flatParts_sound model (UInt32.ofNat (if layer then scale / 2 else 0))
    (UInt32.ofNat (if layer then scale / 4 else 0)) view layer legacy hlayer
  refine drawPartsChecked_ok output htexture hsound fun part hpart => ?_
  exact hasRoom_of_view hscale hview hpart (List.all_eq_true.mp hsound part hpart)

/-! ## Placing the views -/

theorem two_padding_lt {options : Skin2dPreviewOptions}
    (h : validateOutputSize options = .ok ()) :
    options.padding.toNat * 2 < options.outputWidth.toNat ∧
      options.padding.toNat * 2 < options.outputHeight.toNat := by
  have hwidth := options.outputWidth.toNat_lt
  have hheight := options.outputHeight.toNat_lt
  unfold validateOutputSize at h
  split at h
  · cases h
  · split at h
    · cases h
    · next hpadding =>
        obtain ⟨hx, hy⟩ := not_or.mp hpadding
        rw [UInt32.le_iff_toNat_le, saturatingDouble, toNat_ofNat (by omega)] at hx hy
        omega

theorem exactScale_pos (options : Skin2dPreviewOptions) (model : SkinModel) :
    0 < exactScale options model := Nat.lt_of_lt_of_le Nat.zero_lt_one (Nat.le_max_right _ _)

theorem modelWidth_eq (model : SkinModel) :
    modelWidth model = (FlatLayout.new model).playerWidth.toNat * 2 ∧ 28 ≤ modelWidth model ∧
      modelWidth model ≤ 32 := by
  cases model <;> decide

/-- Two views of scale 1 fit. -/
def ViewsFit (model : SkinModel) (options : Skin2dPreviewOptions) : Prop :=
  modelWidth model + options.viewSpacing.toNat ≤ options.outputWidth.toNat ∧
    32 ≤ options.outputHeight.toNat

instance (model : SkinModel) (options : Skin2dPreviewOptions) :
    Decidable (ViewsFit model options) := inferInstanceAs (Decidable (_ ∧ _))

/-- **Where two views of scale 1 fit, two views of the computed scale do.** -/
theorem exactScale_fits {model : SkinModel} {options : Skin2dPreviewOptions}
    (hfit : ViewsFit model options) :
    modelWidth model * exactScale options model + options.viewSpacing.toNat ≤
        options.outputWidth.toNat ∧
      32 * exactScale options model ≤ options.outputHeight.toNat := by
  obtain ⟨hwidth, hheight⟩ := hfit
  obtain ⟨-, hpos, -⟩ := modelWidth_eq model
  unfold exactScale
  dsimp only
  generalize hx : (options.outputWidth.toNat - options.padding.toNat * 2 -
    options.viewSpacing.toNat) / modelWidth model = x
  generalize hy : (options.outputHeight.toNat - options.padding.toNat * 2) / 32 = y
  have hxle : modelWidth model * x ≤ options.outputWidth.toNat - options.padding.toNat * 2 -
      options.viewSpacing.toNat := by
    rw [← hx]
    exact Nat.mul_div_le _ _
  by_cases hclamped : min x y = 0
  · rw [hclamped]
    simp only [Nat.zero_max, Nat.mul_one]
    exact ⟨hwidth, hheight⟩
  · have hmax : max (min x y) 1 = min x y := by omega
    rw [hmax]
    have hmin : modelWidth model * min x y ≤ modelWidth model * x :=
      Nat.mul_le_mul_left _ (Nat.min_le_left x y)
    have hone : modelWidth model ≤ modelWidth model * x := Nat.le_mul_of_pos_right _ (by omega)
    constructor <;> omega

/-- The positions where the views fit. -/
def fittingViews (options : Skin2dPreviewOptions) (model : SkinModel) : ViewPlacement :=
  let scale := exactScale options model
  let startX := (options.outputWidth.toNat -
    (modelWidth model * scale + options.viewSpacing.toNat)) / 2
  { startX := startX
    startY := (options.outputHeight.toNat - 32 * scale) / 2
    backX := startX + (FlatLayout.new model).playerWidth.toNat * scale +
      options.viewSpacing.toNat }

theorem placeViews_of_fit {options : Skin2dPreviewOptions} {model : SkinModel}
    (hvalid : validateOutputSize options = .ok ()) (hfit : ViewsFit model options) :
    placeViews options model = some (fittingViews options model) := by
  have hwidth32 := options.outputWidth.toNat_lt
  have hheight32 := options.outputHeight.toNat_lt
  obtain ⟨hpaddingX, -⟩ := two_padding_lt hvalid
  obtain ⟨hx, hy⟩ := exactScale_fits hfit
  have hplayer : modelWidth model * exactScale options model =
      (FlatLayout.new model).playerWidth.toNat * exactScale options model * 2 := by
    rw [(modelWidth_eq model).1, Nat.mul_right_comm]
  simp only [placeViews, fittingViews, Option.bind_eq_bind]
  generalize exactScale options model = scale at *
  generalize modelWidth model * scale = total at *
  generalize (FlatLayout.new model).playerWidth.toNat * scale = player at *
  rw [u32_of_lt (by omega), Option.bind_some, u32_of_lt (by omega), Option.bind_some,
    u32_of_lt (by omega), Option.bind_some, u32_of_lt (by omega), Option.bind_some,
    minus_of_le hx, Option.bind_some, minus_of_le hy, Option.bind_some, u32_of_lt (by omega),
    Option.bind_some, u32_of_lt (by omega), Option.bind_some, u32_of_lt (by omega)]
  rfl

/-- **The differences are negative where the views do not fit.** -/
theorem fit_of_placeViews {options : Skin2dPreviewOptions} {model : SkinModel}
    {views : ViewPlacement} (h : placeViews options model = some views) :
    ViewsFit model options := by
  have hpos := exactScale_pos options model
  have hone : modelWidth model ≤ modelWidth model * exactScale options model :=
    Nat.le_mul_of_pos_right _ hpos
  obtain ⟨-, -, h⟩ := Option.bind_eq_some_iff.mp h
  obtain ⟨total, htotal, h⟩ := Option.bind_eq_some_iff.mp h
  obtain ⟨renderedWidth, hwidth, h⟩ := Option.bind_eq_some_iff.mp h
  obtain ⟨renderedHeight, hheight, h⟩ := Option.bind_eq_some_iff.mp h
  obtain ⟨marginX, hmarginX, h⟩ := Option.bind_eq_some_iff.mp h
  obtain ⟨marginY, hmarginY, -⟩ := Option.bind_eq_some_iff.mp h
  obtain ⟨rfl, -⟩ := u32_eq_some htotal
  obtain ⟨rfl, -⟩ := u32_eq_some hwidth
  obtain ⟨rfl, -⟩ := u32_eq_some hheight
  obtain ⟨-, hleX⟩ := minus_eq_some hmarginX
  obtain ⟨-, hleY⟩ := minus_eq_some hmarginY
  constructor <;> omega

/-! ## What a drawn part shows -/

theorem placePart_eq_some {texture : RgbaImage} {originX originY scale : Nat} {part : Part}
    {p : Placement} (h : placePart texture originX originY scale part = some p) :
    p = placed texture originX originY scale part := by
  obtain ⟨mx, hmx, h⟩ := Option.bind_eq_some_iff.mp h
  obtain ⟨baseX, hbaseX, h⟩ := Option.bind_eq_some_iff.mp h
  obtain ⟨my, hmy, h⟩ := Option.bind_eq_some_iff.mp h
  obtain ⟨baseY, hbaseY, h⟩ := Option.bind_eq_some_iff.mp h
  obtain ⟨w, hw, h⟩ := Option.bind_eq_some_iff.mp h
  obtain ⟨ex, hex, h⟩ := Option.bind_eq_some_iff.mp h
  obtain ⟨destWidth, hdestWidth, h⟩ := Option.bind_eq_some_iff.mp h
  obtain ⟨hh, hhh, h⟩ := Option.bind_eq_some_iff.mp h
  obtain ⟨ey, hey, h⟩ := Option.bind_eq_some_iff.mp h
  obtain ⟨destHeight, hdestHeight, h⟩ := Option.bind_eq_some_iff.mp h
  obtain ⟨sourceWidth, hsourceWidth, h⟩ := Option.bind_eq_some_iff.mp h
  obtain ⟨sourceHeight, hsourceHeight, h⟩ := Option.bind_eq_some_iff.mp h
  obtain ⟨rfl, -⟩ := u32_eq_some hmx
  obtain ⟨rfl, -⟩ := u32_eq_some hbaseX
  obtain ⟨rfl, -⟩ := u32_eq_some hmy
  obtain ⟨rfl, -⟩ := u32_eq_some hbaseY
  obtain ⟨rfl, -⟩ := u32_eq_some hw
  obtain ⟨rfl, -⟩ := u32_eq_some hex
  obtain ⟨rfl, -⟩ := u32_eq_some hdestWidth
  obtain ⟨rfl, -⟩ := u32_eq_some hhh
  obtain ⟨rfl, -⟩ := u32_eq_some hey
  obtain ⟨rfl, -⟩ := u32_eq_some hdestHeight
  obtain ⟨rfl, -⟩ := u32_eq_some hsourceWidth
  obtain ⟨rfl, -⟩ := u32_eq_some hsourceHeight
  exact (Option.some.inj h).symm

/-- Every pixel of a drawn part was drawn. -/
theorem drawPixel_of_drawPart {F : Type} [F32 F] {texture output output' : RgbaImage}
    {originX originY scale y x : Nat} {part : Part}
    (h : drawPartChecked F texture originX originY scale part output = some output')
    (hy : y < (placed texture originX originY scale part).destHeight)
    (hx : x < (placed texture originX originY scale part).destWidth) :
    ∃ s s', drawPixel F texture scale part (placed texture originX originY scale part) y x s =
      some s' := by
  obtain ⟨p, hp, h⟩ := Option.bind_eq_some_iff.mp h
  rw [placePart_eq_some hp] at h
  by_contra hnone
  push Not at hnone
  have hpixel : ∀ s, drawPixel F texture scale part (placed texture originX originY scale part)
      y x s = none := fun s => Option.eq_none_iff_forall_ne_some.mpr (hnone s)
  rw [times_none hy fun s => times_none hx hpixel] at h
  cases h

/-- **The height of a drawn part is bounded**: its last row is multiplied by it. -/
theorem height_of_drawPart {F : Type} [F32 F] {texture output output' : RgbaImage}
    {originX originY scale : Nat} {part : Part}
    (h : drawPartChecked F texture originX originY scale part output = some output')
    (hwidth : 0 < part.modelWidth.toNat * scale) (hheight : 0 < part.modelHeight.toNat * scale) :
    (part.modelHeight.toNat * scale + part.expand.toNat * 2 - 1) *
      (part.modelHeight.toNat * scale) < 2 ^ 32 := by
  obtain ⟨s, s', hpixel⟩ := drawPixel_of_drawPart h
    (y := part.modelHeight.toNat * scale + part.expand.toNat * 2 - 1) (x := 0)
    (by simp only [placed]; omega) (by simp only [placed]; omega)
  obtain ⟨source, hsource, -⟩ := Option.bind_eq_some_iff.mp hpixel
  obtain ⟨localX, -, hsource⟩ := Option.bind_eq_some_iff.mp hsource
  obtain ⟨localY, hlocalY, -⟩ := Option.bind_eq_some_iff.mp hsource
  obtain ⟨product, hspace, -⟩ := Option.bind_eq_some_iff.mp hlocalY
  exact (u32_eq_some hspace).2

/-- **The right edge of a drawn part without transparent texels is bounded**: its last column
is added to its position. -/
theorem right_of_drawPart {F : Type} [F32 F] {texture output output' : RgbaImage}
    {originX originY scale : Nat} {part : Part}
    (h : drawPartChecked F texture originX originY scale part output = some output')
    (hsolid : ∀ color ∈ texture.pixels, color.alpha ≠ 0)
    (hwidth : 0 < part.modelWidth.toNat * scale) (hheight : 0 < part.modelHeight.toNat * scale) :
    originX + part.modelX.toNat * scale + part.modelWidth.toNat * scale + part.expand.toNat ≤
      2 ^ 32 := by
  obtain ⟨s, s', hpixel⟩ := drawPixel_of_drawPart h (y := 0)
    (x := part.modelWidth.toNat * scale + part.expand.toNat * 2 - 1)
    (by simp only [placed]; omega) (by simp only [placed]; omega)
  obtain ⟨source, -, hpixel⟩ := Option.bind_eq_some_iff.mp hpixel
  obtain ⟨color, hcolor, hpixel⟩ := Option.bind_eq_some_iff.mp hpixel
  have hmem : color ∈ texture.pixels := by
    unfold RgbaImage.getPixel at hcolor
    split at hcolor
    · exact List.mem_of_getElem? hcolor
    · cases hcolor
  rw [if_neg (hsolid color hmem)] at hpixel
  obtain ⟨outputX, houtputX, -⟩ := Option.bind_eq_some_iff.mp hpixel
  have hlt := (u32_eq_some houtputX).2
  simp only [placed] at hlt
  omega

/-! ## The condition -/

/-- A skin without a transparent texel. -/
def solidSkin (legacy : Bool) : RgbaImage where
  width := 64
  height := if legacy then 32 else 64
  pixels := List.replicate (64 * if legacy then 32 else 64) ⟨255, 255, 255, 255⟩
  filled := by cases legacy <;> exact List.length_replicate
  fits := by cases legacy <;> decide

theorem solidSkin_accepted (legacy : Bool) : AcceptedSkin (solidSkin legacy) legacy := by
  cases legacy <;> exact ⟨1, Nat.one_pos, rfl, rfl⟩

theorem solidSkin_solid (legacy : Bool) :
    ∀ color ∈ (solidSkin legacy).pixels, color.alpha ≠ 0 := by
  intro color hcolor
  rw [List.eq_of_mem_replicate hcolor]
  decide

/-- At this scale no product of the loops overflows, and with the outer layer the last column
has a position. -/
def ScaleDrawable (model : SkinModel) (options : Skin2dPreviewOptions) (legacy : Bool)
    (scale : Nat) : Prop :=
  let renderedWidth := modelWidth model * scale + options.viewSpacing.toNat
  if options.showOuterLayer && !legacy then
    scale ≤ 5351 ∧
      (options.outputWidth.toNat - renderedWidth) / 2 + renderedWidth + scale / 4 ≤ 2 ^ 32
  else scale ≤ 5461

/-- Two views of a scale fit beside the padding. -/
def FitsPadded (model : SkinModel) (options : Skin2dPreviewOptions) (scale : Nat) : Prop :=
  modelWidth model * scale + options.viewSpacing.toNat + options.padding.toNat * 2 ≤
      options.outputWidth.toNat ∧
    32 * scale + options.padding.toNat * 2 ≤ options.outputHeight.toNat

/-- Two views of scale 1 fit, and every scale that fits beside the padding is drawable. -/
def Drawable (model : SkinModel) (options : Skin2dPreviewOptions) (legacy : Bool) : Prop :=
  ViewsFit model options ∧
    ∀ scale, FitsPadded model options scale → ScaleDrawable model options legacy scale

/-- A scale below a drawable one is drawable. -/
theorem scaleDrawable_mono {model : SkinModel} {options : Skin2dPreviewOptions} {legacy : Bool}
    {scale scale' : Nat} (hle : scale ≤ scale')
    (hfit : modelWidth model * scale' + options.viewSpacing.toNat ≤ options.outputWidth.toNat)
    (h : ScaleDrawable model options legacy scale') :
    ScaleDrawable model options legacy scale := by
  have hwidth : modelWidth model * scale ≤ modelWidth model * scale' := Nat.mul_le_mul_left _ hle
  unfold ScaleDrawable at h ⊢
  dsimp only at h ⊢
  split at h
  · next houter =>
      rw [if_pos houter]
      omega
  · next houter =>
      rw [if_neg houter]
      omega

/-- **The scale is the largest that fits beside the padding**, or 1. -/
theorem exactScale_largest (options : Skin2dPreviewOptions) (model : SkinModel) :
    (∀ scale, FitsPadded model options scale → scale ≤ exactScale options model) ∧
      (FitsPadded model options (exactScale options model) ∨ exactScale options model = 1) := by
  obtain ⟨-, hpos, -⟩ := modelWidth_eq model
  unfold exactScale FitsPadded
  dsimp only
  generalize hx : (options.outputWidth.toNat - options.padding.toNat * 2 -
    options.viewSpacing.toNat) / modelWidth model = x
  generalize hy : (options.outputHeight.toNat - options.padding.toNat * 2) / 32 = y
  constructor
  · rintro scale ⟨hwidth, hheight⟩
    have hlex : scale ≤ x := by
      rw [← hx, Nat.le_div_iff_mul_le (by omega), Nat.mul_comm]
      omega
    omega
  · by_cases hclamped : min x y = 0
    · exact Or.inr (by omega)
    · have hmax : max (min x y) 1 = min x y := by omega
      have hxle : modelWidth model * x ≤ options.outputWidth.toNat - options.padding.toNat * 2 -
          options.viewSpacing.toNat := by
        rw [← hx]
        exact Nat.mul_div_le _ _
      have hmin : modelWidth model * min x y ≤ modelWidth model * x :=
        Nat.mul_le_mul_left _ (Nat.min_le_left x y)
      have hone : modelWidth model ≤ modelWidth model * x := Nat.le_mul_of_pos_right _ (by omega)
      rw [hmax]
      exact Or.inl ⟨by omega, by omega⟩

/-- The condition speaks of the scale that is computed. -/
theorem drawable_iff {model : SkinModel} {options : Skin2dPreviewOptions} (legacy : Bool)
    (hfit : ViewsFit model options) :
    Drawable model options legacy ↔
      ScaleDrawable model options legacy (exactScale options model) := by
  obtain ⟨hlargest, hfits⟩ := exactScale_largest options model
  constructor
  · rintro ⟨-, hall⟩
    rcases hfits with hfits | hone
    · exact hall _ hfits
    · have hwidth32 := options.outputWidth.toNat_lt
      have hwidth := hfit.1
      rw [hone, ScaleDrawable, Nat.mul_one]
      split
      · omega
      · decide
  · intro hscale
    refine ⟨hfit, fun scale hpadded => ?_⟩
    exact scaleDrawable_mono (hlargest scale hpadded) (exactScale_fits hfit).1 hscale

/-- Both views lie in the output. -/
def ViewsInside (model : SkinModel) (options : Skin2dPreviewOptions) (output : RgbaImage) :
    Prop :=
  ∃ views, placeViews options model = some views ∧
    views.startX + (FlatLayout.new model).playerWidth.toNat * exactScale options model ≤
      views.backX ∧
    views.backX + (FlatLayout.new model).playerWidth.toNat * exactScale options model ≤
      output.width.toNat ∧
    views.startY + 32 * exactScale options model ≤ output.height.toNat

/-- **Views that fit lie inside**, one beside the other. -/
theorem viewsInside_of_fit {model : SkinModel} {options : Skin2dPreviewOptions}
    {output : RgbaImage} (hvalid : validateOutputSize options = .ok ())
    (hwidth : output.width = options.outputWidth) (hheight : output.height = options.outputHeight)
    (hfit : ViewsFit model options) : ViewsInside model options output := by
  obtain ⟨hx, hy⟩ := exactScale_fits hfit
  have hplayer : modelWidth model * exactScale options model =
      (FlatLayout.new model).playerWidth.toNat * exactScale options model * 2 := by
    rw [(modelWidth_eq model).1, Nat.mul_right_comm]
  refine ⟨fittingViews options model, placeViews_of_fit hvalid hfit, ?_⟩
  simp only [fittingViews, hwidth, hheight]
  omega

/-- The views of a layer have room where their last column has a position. -/
theorem viewHasRoom_of_fit {model : SkinModel} {options : Skin2dPreviewOptions}
    (layer : Bool) (hfit : ViewsFit model options) (hscale : exactScale options model ≤ 5461)
    (hright : (options.outputWidth.toNat -
        (modelWidth model * exactScale options model + options.viewSpacing.toNat)) / 2 +
      (modelWidth model * exactScale options model + options.viewSpacing.toNat) +
      (if layer then exactScale options model / 4 else 0) ≤ 2 ^ 32) :
    ViewHasRoom model layer (fittingViews options model).startX
        (fittingViews options model).startY (exactScale options model) ∧
      ViewHasRoom model layer (fittingViews options model).backX
        (fittingViews options model).startY (exactScale options model) := by
  obtain ⟨hx, hy⟩ := exactScale_fits hfit
  have hplayer : modelWidth model * exactScale options model =
      (FlatLayout.new model).playerWidth.toNat * exactScale options model * 2 := by
    rw [(modelWidth_eq model).1, Nat.mul_right_comm]
  have hheight32 := options.outputHeight.toNat_lt
  have hlayer : (if layer then exactScale options model / 4 else 0) ≤
      exactScale options model / 4 := by
    split
    · exact Nat.le_refl _
    · exact Nat.zero_le _
  simp only [ViewHasRoom, fittingViews]
  omega

/-- **The engine draws what it can draw.** -/
theorem drawPlayerViewsChecked_ok {F : Type} [F32 F] {model : SkinModel}
    {options : Skin2dPreviewOptions} {legacy : Bool} {texture output : RgbaImage}
    (hvalid : validateOutputSize options = .ok ()) (hdrawable : Drawable model options legacy)
    (htexture : AcceptedSkin texture legacy) :
    ∃ output', drawPlayerViewsChecked F texture model options output = some output' ∧
      SameSize output output' := by
  have hfit := hdrawable.1
  have hscale := (drawable_iff legacy hfit).mp hdrawable
  unfold ScaleDrawable at hscale
  dsimp only at hscale
  have hwidth32 := options.outputWidth.toNat_lt
  obtain ⟨hx, hy⟩ := exactScale_fits hfit
  have hbound : exactScale options model ≤ 5461 := by
    split at hscale
    · exact Nat.le_trans hscale.1 (by decide)
    · exact hscale
  obtain ⟨k, hk, hwidth, hheight⟩ := htexture
  have hdoubled : texture.height.toNat * 2 < 2 ^ 32 := by
    have hfits := texture.fits
    have hwidthlt := texture.width.toNat_lt
    cases legacy with
    | true =>
        simp only [if_true] at hheight
        omega
    | false =>
        simp only [Bool.false_eq_true, if_false] at hheight
        by_contra hlarge
        have hle : 2 ^ 31 ≤ 64 * k := by omega
        have hsquare : 2 ^ 31 * 2 ^ 31 ≤ 64 * k * (64 * k) := Nat.mul_le_mul hle hle
        rw [hwidth, hheight] at hfits
        omega
  have hlegacy : (texture.height.toNat * 2 == texture.width.toNat) = legacy := by
    cases legacy with
    | true =>
        simp only [if_true] at hheight
        exact beq_iff_eq.mpr (by omega)
    | false =>
        simp only [Bool.false_eq_true, if_false] at hheight
        exact beq_eq_false_iff_ne.mpr (by omega)
  have haccepted : AcceptedSkin texture legacy := ⟨k, hk, hwidth, hheight⟩
  have hpos := exactScale_pos options model
  have hbase : ScaleFits false (exactScale options model) := ⟨hpos, hbound⟩
  have hroom := viewHasRoom_of_fit false hfit hbound (by
    simp only [Bool.false_eq_true, if_false]
    omega)
  simp only [drawPlayerViewsChecked, u32_of_lt hdoubled, placeViews_of_fit hvalid hfit, hlegacy,
    Option.bind_eq_bind, Option.bind_some]
  obtain ⟨output₁, hfront, hsame₁⟩ := drawFlatPlayerChecked_ok (F := F) .front output
    haccepted (fun h => absurd h Bool.false_ne_true) rfl hbase hroom.1
  obtain ⟨output₂, hback, hsame₂⟩ := drawFlatPlayerChecked_ok (F := F) .back output₁
    haccepted (fun h => absurd h Bool.false_ne_true) rfl hbase hroom.2
  rw [hfront, Option.bind_some, hback, Option.bind_some]
  by_cases houter : (options.showOuterLayer && !legacy) = true
  · -- the outer layer, which legacy skins do not have
    have hmodern : legacy = false := by
      cases legacy with
      | true => simp at houter
      | false => rfl
    rw [if_pos houter] at hscale ⊢
    have hlayer : ScaleFits true (exactScale options model) := ⟨hpos, hscale.1⟩
    have hroom' := viewHasRoom_of_fit true hfit hbound hscale.2
    obtain ⟨output₃, hfront', hsame₃⟩ := drawFlatPlayerChecked_ok (F := F) .front output₂
      haccepted (fun _ => rfl) hmodern.symm hlayer hroom'.1
    obtain ⟨output₄, hback', hsame₄⟩ := drawFlatPlayerChecked_ok (F := F) .back output₃
      haccepted (fun _ => rfl) hmodern.symm hlayer hroom'.2
    rw [hfront', Option.bind_some]
    refine ⟨output₄, hback', ?_, ?_⟩
    · rw [hsame₄.1, hsame₃.1, hsame₂.1, hsame₁.1]
    · rw [hsame₄.2, hsame₃.2, hsame₂.2, hsame₁.2]
  · rw [if_neg houter]
    exact ⟨output₂, rfl, hsame₂.1.trans hsame₁.1, hsame₂.2.trans hsame₁.2⟩

/-! ## Exactness -/

/-- Every part of a drawn list was drawn. -/
theorem drawPart_of_drawParts {F : Type} [F32 F] {texture output output' : RgbaImage}
    {originX originY scale : Nat} {parts : List Part} {part : Part}
    (h : drawPartsChecked F texture originX originY scale parts output = some output')
    (hpart : part ∈ parts) :
    ∃ s s', drawPartChecked F texture originX originY scale part s = some s' := by
  induction parts generalizing output with
  | nil => cases hpart
  | cons first parts ih =>
      obtain ⟨output₁, hfirst, hrest⟩ := Option.bind_eq_some_iff.mp h
      rcases List.mem_cons.mp hpart with rfl | hmem
      · exact ⟨output, output₁, hfirst⟩
      · exact ih hrest hmem

section Arms

variable {F : Type} [F32 F] {texture output output' : RgbaImage} {model : SkinModel}
  {originY scale originX : Nat} {legacy layer : Bool} {view : View}

theorem limbHeight_pos : 0 < limbHeight.toNat := by decide

theorem armWidth_pos (model : SkinModel) : 0 < (FlatLayout.new model).armWidth.toNat := by
  cases model <;> decide

/-- **A drawn view has a bounded scale**, since an arm has a bounded height. -/
theorem scale_of_drawFlatPlayer (hpos : 0 < scale) (h32 : scale < 2 ^ 32)
    (h : drawFlatPlayerChecked F texture (FlatLayout.new model).armWidth originY scale legacy layer
      view originX output = some output') : ScaleFits layer scale := by
  obtain ⟨s, s', harm⟩ := drawPart_of_drawParts h List.mem_cons_self
  have hheight := height_of_drawPart harm (Nat.mul_pos (armWidth_pos model) hpos)
    (Nat.mul_pos limbHeight_pos hpos)
  have hlimb : limbHeight.toNat = 12 := rfl
  dsimp only at hheight
  rw [hlimb] at hheight
  refine ⟨hpos, ?_⟩
  by_contra hlarge
  cases layer with
  | true =>
      simp only [if_true] at hheight hlarge
      rw [toNat_ofNat (by omega)] at hheight
      have hle : 66899 * 64224 ≤ (12 * scale + scale / 4 * 2 - 1) * (12 * scale) :=
        Nat.mul_le_mul (by omega) (by omega)
      omega
  | false =>
      simp only [Bool.false_eq_true, if_false] at hheight hlarge
      have hle : 65543 * 65544 ≤ (12 * scale + (UInt32.ofNat 0).toNat * 2 - 1) * (12 * scale) :=
        Nat.mul_le_mul (by omega) (by omega)
      omega

/-- **A drawn layer without transparent texels ends before the last position**, since an arm
does. -/
theorem right_of_drawFlatPlayer (hpos : 0 < scale) (h32 : scale < 2 ^ 32)
    (hsolid : ∀ color ∈ texture.pixels, color.alpha ≠ 0)
    (h : drawFlatPlayerChecked F texture (FlatLayout.new model).armWidth originY scale legacy true
      view originX output = some output') :
    originX + (FlatLayout.new model).playerWidth.toNat * scale + scale / 4 ≤ 2 ^ 32 := by
  obtain ⟨s, s', harm⟩ := drawPart_of_drawParts h (List.mem_cons_of_mem _ List.mem_cons_self)
  have hright := right_of_drawPart harm hsolid (Nat.mul_pos (armWidth_pos model) hpos)
    (Nat.mul_pos limbHeight_pos hpos)
  dsimp only at hright
  rw [if_pos rfl, toNat_ofNat (by omega), Nat.add_assoc originX, ← Nat.add_mul] at hright
  have hplayer : ((FlatLayout.new model).armWidth + bodyWidth).toNat +
      (FlatLayout.new model).armWidth.toNat = (FlatLayout.new model).playerWidth.toNat := by
    cases model <;> rfl
  rwa [hplayer] at hright

end Arms

/-- **What the engine draws, it can draw**: a skin without transparent texels shows it. -/
theorem drawable_of_drawPlayerViews {F : Type} [F32 F] {model : SkinModel}
    {options : Skin2dPreviewOptions} {legacy : Bool} {output output' : RgbaImage}
    (hvalid : validateOutputSize options = .ok ())
    (h : drawPlayerViewsChecked F (solidSkin legacy) model options output = some output') :
    Drawable model options legacy := by
  obtain ⟨doubled, hdoubled, h⟩ := Option.bind_eq_some_iff.mp h
  obtain ⟨views, hviews, h⟩ := Option.bind_eq_some_iff.mp h
  have hfit := fit_of_placeViews hviews
  rw [placeViews_of_fit hvalid hfit] at hviews
  cases hviews
  obtain ⟨rfl, -⟩ := u32_eq_some hdoubled
  have hlegacy : ((solidSkin legacy).height.toNat * 2 == (solidSkin legacy).width.toNat) =
      legacy := by
    cases legacy <;> rfl
  simp only [hlegacy] at h
  obtain ⟨output₁, hfront, h⟩ := Option.bind_eq_some_iff.mp h
  obtain ⟨output₂, -, h⟩ := Option.bind_eq_some_iff.mp h
  have hpos := exactScale_pos options model
  have hheight32 := options.outputHeight.toNat_lt
  obtain ⟨hx, hy⟩ := exactScale_fits hfit
  have h32 : exactScale options model < 2 ^ 32 := by omega
  refine (drawable_iff legacy hfit).mpr ?_
  unfold ScaleDrawable
  dsimp only
  split
  · next houter =>
      rw [if_pos houter] at h
      have hmodern : legacy = false := by
        cases legacy with
        | true => simp at houter
        | false => rfl
      obtain ⟨output₃, -, hback⟩ := Option.bind_eq_some_iff.mp h
      have hscale := scale_of_drawFlatPlayer hpos h32 hback
      have hright := right_of_drawFlatPlayer hpos h32 (solidSkin_solid legacy) hback
      have hplayer : modelWidth model * exactScale options model =
          (FlatLayout.new model).playerWidth.toNat * exactScale options model * 2 := by
        rw [(modelWidth_eq model).1, Nat.mul_right_comm]
      refine ⟨hscale.2, ?_⟩
      simp only [fittingViews] at hright
      omega
  · exact (scale_of_drawFlatPlayer hpos h32 hfront).2

/-- What a drawing of all accepted skins of one form is: every one is drawn, and both views
lie in the output. -/
def DrawsAll (F : Type) [F32 F] (model : SkinModel) (options : Skin2dPreviewOptions)
    (legacy : Bool) (output : RgbaImage) : Prop :=
  (∀ texture, AcceptedSkin texture legacy →
    ∃ output', drawPlayerViewsChecked F texture model options output = some output' ∧
      SameSize output output') ∧
    ViewsInside model options output

/-- **The engine draws all accepted skins** exactly where two views of scale 1 fit and every
scale that fits beside the padding is drawable. -/
theorem drawPlayerViews_checked_iff {F : Type} [F32 F] {model : SkinModel}
    {options : Skin2dPreviewOptions} {output : RgbaImage} (legacy : Bool)
    (hvalid : validateOutputSize options = .ok ())
    (hwidth : output.width = options.outputWidth)
    (hheight : output.height = options.outputHeight) :
    DrawsAll F model options legacy output ↔ Drawable model options legacy := by
  constructor
  · rintro ⟨hdraws, -⟩
    obtain ⟨output', hdrawn, -⟩ := hdraws (solidSkin legacy) (solidSkin_accepted legacy)
    exact drawable_of_drawPlayerViews hvalid hdrawn
  · intro hdrawable
    refine ⟨fun texture htexture => drawPlayerViewsChecked_ok hvalid hdrawable htexture, ?_⟩
    exact viewsInside_of_fit hvalid hwidth hheight hdrawable.1

/-- The options that are configured by default. -/
def defaultPreview : Skin2dPreviewOptions where
  outputWidth := 430
  outputHeight := 430
  padding := 24
  viewSpacing := 35
  background := none
  showOuterLayer := true

/-- An image of the default dimensions. -/
def blankPreview : RgbaImage where
  width := 430
  height := 430
  pixels := List.replicate (430 * 430) transparent
  filled := List.length_replicate
  fits := by decide

theorem defaultPreview_drawsAll :
    DrawsAll Float32 .default defaultPreview false blankPreview ∧
      DrawsAll Float32 .slim defaultPreview true blankPreview := by
  have hmodern : Drawable .default defaultPreview false :=
    (drawable_iff false (by decide)).mpr (show exactScale defaultPreview .default ≤ 5351 ∧
      (430 - (modelWidth .default * exactScale defaultPreview .default + 35)) / 2 +
        (modelWidth .default * exactScale defaultPreview .default + 35) +
        exactScale defaultPreview .default / 4 ≤ 2 ^ 32 by decide)
  have hlegacy : Drawable .slim defaultPreview true :=
    (drawable_iff true (by decide)).mpr (show exactScale defaultPreview .slim ≤ 5461 by decide)
  exact ⟨(drawPlayerViews_checked_iff false rfl rfl rfl).mpr hmodern,
    (drawPlayerViews_checked_iff true rfl rfl rfl).mpr hlegacy⟩

/-- **Without room for two views of scale 1** a difference is negative. -/
theorem wideSpacing_underflows :
    validateOutputSize { defaultPreview with viewSpacing := 400 } = .ok () ∧
      AcceptedSkin (solidSkin false) false ∧
      placeViews { defaultPreview with viewSpacing := 400 } .default = none ∧
      drawPlayerViewsChecked Float32 (solidSkin false) .default
        { defaultPreview with viewSpacing := 400 } blankPreview = none := by
  have hviews : placeViews { defaultPreview with viewSpacing := 400 } .default = none := by decide
  refine ⟨rfl, solidSkin_accepted false, hviews, ?_⟩
  simp only [drawPlayerViewsChecked, hviews, Option.bind_eq_bind, Option.bind_none,
    Option.bind_fun_none]

end AsterYggdrasil.Renderer.Skin2d
