import AsterYggdrasil.Renderer.FlatBounds

/-!
# The flat engine with checks and without

A release build wraps around where a debug build panics.  **`drawPlayerViews_of_checked`**: where
the checked operations all succeed, the wrapping ones compute the same numbers, and both builds
draw the same picture.  The scale goes through floats, and is taken to be the exact one.
-/

namespace AsterYggdrasil.Renderer.Skin2d

/-! ## Numbers -/

section Numbers

variable {a b : UInt32} {n : Nat}

theorem toNat_add_of_lt (h : a.toNat + b.toNat < 2 ^ 32) :
    (a + b).toNat = a.toNat + b.toNat := by
  rw [UInt32.toNat_add]
  exact Nat.mod_eq_of_lt h

theorem toNat_mul_of_lt (h : a.toNat * b.toNat < 2 ^ 32) :
    (a * b).toNat = a.toNat * b.toNat := by
  rw [UInt32.toNat_mul]
  exact Nat.mod_eq_of_lt h

/-- A checked sum is the wrapping one. -/
theorem toNat_add_of_u32 (h : u32 (a.toNat + b.toNat) = some n) : (a + b).toNat = n := by
  obtain ⟨rfl, hlt⟩ := u32_eq_some h
  exact toNat_add_of_lt hlt

/-- So is a product. -/
theorem toNat_mul_of_u32 (h : u32 (a.toNat * b.toNat) = some n) : (a * b).toNat = n := by
  obtain ⟨rfl, hlt⟩ := u32_eq_some h
  exact toNat_mul_of_lt hlt

/-- And a difference. -/
theorem toNat_sub_of_minus (h : minus a.toNat b.toNat = some n) : (a - b).toNat = n := by
  obtain ⟨rfl, hle⟩ := minus_eq_some h
  exact UInt32.toNat_sub_of_le a b (UInt32.le_iff_toNat_le.mpr hle)

theorem toNat_saturatingSub : (saturatingSub a b).toNat = a.toNat - b.toNat := by
  unfold saturatingSub
  by_cases hle : b ≤ a
  · rw [if_pos hle]
    exact UInt32.toNat_sub_of_le a b hle
  · rw [if_neg hle]
    rw [UInt32.le_iff_toNat_le] at hle
    have hzero : (0 : UInt32).toNat = 0 := rfl
    omega

theorem toNat_min : (min a b).toNat = min a.toNat b.toNat := by
  show (if a ≤ b then a else b).toNat = _
  by_cases hle : a ≤ b
  · rw [if_pos hle]
    exact (Nat.min_eq_left (UInt32.le_iff_toNat_le.mp hle)).symm
  · rw [if_neg hle]
    rw [UInt32.le_iff_toNat_le] at hle
    exact (Nat.min_eq_right (by omega)).symm

theorem quotient_eq_some {a b c : Nat} (h : quotient a b = some c) : c = a / b := by
  unfold quotient at h
  split at h
  · cases h
  · exact (Option.some.inj h).symm

end Numbers

/-! ## One part -/

section Parts

variable {F : Type} [F32 F] {texture : RgbaImage} {originX originY scale : UInt32} {part : Part}

/-- A position of the expanded part. -/
theorem localOffset_agrees {i source dest : UInt32} {n : Nat}
    (h : localOffset i.toNat source.toNat dest.toNat scale.toNat = some n) :
    (i * source / dest / scale).toNat = n := by
  obtain ⟨product, hproduct, h⟩ := Option.bind_eq_some_iff.mp h
  obtain ⟨space, hspace, h⟩ := Option.bind_eq_some_iff.mp h
  rw [UInt32.toNat_div, UInt32.toNat_div, toNat_mul_of_u32 hproduct,
    ← quotient_eq_some hspace, ← quotient_eq_some h]

theorem sourceLocalX_agrees {localX : UInt32} {n : Nat}
    (h : sourceLocalX part localX.toNat = some n) :
    (if part.mirrorU then part.modelWidth - 1 - localX else localX).toNat = n := by
  unfold sourceLocalX at h
  by_cases hmirror : part.mirrorU = true
  · rw [if_pos hmirror] at h ⊢
    obtain ⟨last, hlast, h⟩ := Option.bind_eq_some_iff.mp h
    have hfirst : (part.modelWidth - 1).toNat = last := toNat_sub_of_minus hlast
    rw [← hfirst] at h
    exact toNat_sub_of_minus h
  · rw [if_neg hmirror] at h ⊢
    exact Option.some.inj h

theorem texel_agrees {start size offset textureScale : UInt32} {n : Nat}
    (h : texel start.toNat size.toNat offset.toNat textureScale.toNat = some n) :
    ((start + min offset (size - 1)) * textureScale).toNat = n := by
  obtain ⟨last, hlast, h⟩ := Option.bind_eq_some_iff.mp h
  obtain ⟨unit, hunit, h⟩ := Option.bind_eq_some_iff.mp h
  have hlast' : (size - 1).toNat = last := toNat_sub_of_minus hlast
  rw [← hlast', ← toNat_min] at hunit
  rw [← toNat_add_of_u32 hunit] at h
  exact toNat_mul_of_u32 h

/-- Where a part is drawn, in the numbers of the wrapping operations. -/
structure Placement.Agrees (p : Placement) (texture : RgbaImage)
    (originX originY scale : UInt32) (part : Part) : Prop where
  textureScale : (texture.width / 64).toNat = p.textureScale
  destX : (saturatingSub (originX + part.modelX * scale) part.expand).toNat = p.destX
  destY : (saturatingSub (originY + part.modelY * scale) part.expand).toNat = p.destY
  destWidth : (part.modelWidth * scale + part.expand * 2).toNat = p.destWidth
  destHeight : (part.modelHeight * scale + part.expand * 2).toNat = p.destHeight
  sourceWidth : (part.modelWidth * scale).toNat = p.sourceWidth
  sourceHeight : (part.modelHeight * scale).toNat = p.sourceHeight

theorem placePart_agrees {p : Placement}
    (h : placePart texture originX.toNat originY.toNat scale.toNat part = some p) :
    p.Agrees texture originX originY scale part := by
  have htwo : (2 : UInt32).toNat = 2 := rfl
  obtain ⟨mx, hmx, h⟩ := Option.bind_eq_some_iff.mp h
  obtain ⟨baseX, hbaseX, h⟩ := Option.bind_eq_some_iff.mp h
  obtain ⟨my, hmy, h⟩ := Option.bind_eq_some_iff.mp h
  obtain ⟨baseY, hbaseY, h⟩ := Option.bind_eq_some_iff.mp h
  obtain ⟨w, hw, h⟩ := Option.bind_eq_some_iff.mp h
  obtain ⟨ex, hex, h⟩ := Option.bind_eq_some_iff.mp h
  obtain ⟨destWidth, hdestWidth, h⟩ := Option.bind_eq_some_iff.mp h
  obtain ⟨hh, hhh, h⟩ := Option.bind_eq_some_iff.mp h
  obtain ⟨ey, hey, h⟩ := Option.bind_eq_some_iff.mp h
  obtain ⟨destHeight, hdestHeight, h⟩ := Option.bind_eq_some_iff.mp h
  obtain ⟨sourceWidth, hsourceWidth, h⟩ := Option.bind_eq_some_iff.mp h
  obtain ⟨sourceHeight, hsourceHeight, h⟩ := Option.bind_eq_some_iff.mp h
  rw [← Option.some.inj h]
  rw [← toNat_mul_of_u32 hmx] at hbaseX
  rw [← toNat_mul_of_u32 hmy] at hbaseY
  rw [← htwo] at hex hey
  rw [← toNat_mul_of_u32 hw, ← toNat_mul_of_u32 hex] at hdestWidth
  rw [← toNat_mul_of_u32 hhh, ← toNat_mul_of_u32 hey] at hdestHeight
  constructor
  · exact UInt32.toNat_div ..
  · rw [toNat_saturatingSub, toNat_add_of_u32 hbaseX]
  · rw [toNat_saturatingSub, toNat_add_of_u32 hbaseY]
  · exact toNat_add_of_u32 hdestWidth
  · exact toNat_add_of_u32 hdestHeight
  · exact toNat_mul_of_u32 hsourceWidth
  · exact toNat_mul_of_u32 hsourceHeight

/-- The texel of a pixel. -/
theorem sourcePixel_agrees {p : Placement} {y x : UInt32} {source : Nat × Nat}
    (hp : p.Agrees texture originX originY scale part)
    (h : sourcePixel scale.toNat part p y.toNat x.toNat = some source) :
    let localX := x * (part.modelWidth * scale) /
      (part.modelWidth * scale + part.expand * 2) / scale
    let localY := y * (part.modelHeight * scale) /
      (part.modelHeight * scale + part.expand * 2) / scale
    let sourceLocalX := if part.mirrorU then part.modelWidth - 1 - localX else localX
    ((part.uv.x + min sourceLocalX (part.uv.width - 1)) * (texture.width / 64)).toNat = source.1 ∧
      ((part.uv.y + min localY (part.uv.height - 1)) * (texture.width / 64)).toNat =
        source.2 := by
  intro localX localY sourceLocalX
  obtain ⟨n, hn, h⟩ := Option.bind_eq_some_iff.mp h
  obtain ⟨m, hm, h⟩ := Option.bind_eq_some_iff.mp h
  obtain ⟨k, hk, h⟩ := Option.bind_eq_some_iff.mp h
  obtain ⟨sourceX, hsourceX, h⟩ := Option.bind_eq_some_iff.mp h
  obtain ⟨sourceY, hsourceY, h⟩ := Option.bind_eq_some_iff.mp h
  rw [← hp.sourceWidth, ← hp.destWidth] at hn
  rw [← hp.sourceHeight, ← hp.destHeight] at hm
  have hlocalX : localX.toNat = n := localOffset_agrees hn
  have hlocalY : localY.toNat = m := localOffset_agrees hm
  rw [← hlocalX] at hk
  have hsource : sourceLocalX.toNat = k := sourceLocalX_agrees hk
  rw [← hsource, ← hp.textureScale] at hsourceX
  rw [← hlocalY, ← hp.textureScale] at hsourceY
  rw [← Option.some.inj h]
  exact ⟨texel_agrees hsourceX, texel_agrees hsourceY⟩

/-- The write of a pixel. -/
theorem writePixel_agrees {p : Placement} {destX destY y x : UInt32} {color : Rgba}
    {output output' : RgbaImage} (hx : destX.toNat = p.destX) (hy : destY.toNat = p.destY)
    (h : writePixel F p y.toNat x.toNat color output = some output') :
    (if output.width ≤ destX + x ∨ output.height ≤ destY + y then some output
      else output.modifyPixel (destX + x) (destY + y) fun target =>
        blendPixel F target color) = some output' := by
  obtain ⟨outputX, houtputX, h⟩ := Option.bind_eq_some_iff.mp h
  obtain ⟨outputY, houtputY, h⟩ := Option.bind_eq_some_iff.mp h
  rw [← hx] at houtputX
  rw [← hy] at houtputY
  rw [← toNat_add_of_u32 houtputX, ← toNat_add_of_u32 houtputY, UInt32.ofNat_toNat,
    UInt32.ofNat_toNat] at h
  simp only [UInt32.le_iff_toNat_le]
  exact h

/-- **A part** that is drawn with checks is drawn without them. -/
theorem drawPart_of_checked {output output' : RgbaImage}
    (h : drawPartChecked F texture originX.toNat originY.toNat scale.toNat part output =
      some output') :
    drawPart F texture originX originY scale part output = some output' := by
  obtain ⟨p, hplace, h⟩ := Option.bind_eq_some_iff.mp h
  have hp := placePart_agrees hplace
  unfold drawPart
  dsimp only
  simp only [forRange_zero]
  rw [hp.destHeight, hp.destWidth]
  -- row by row, and pixel by pixel
  apply times_agree _ h
  intro y hy row row' hrow
  apply times_agree _ hrow
  intro x hx output output' hround
  have hy32 : y < 2 ^ 32 := hy.trans (hp.destHeight ▸ UInt32.toNat_lt _)
  have hx32 : x < 2 ^ 32 := hx.trans (hp.destWidth ▸ UInt32.toNat_lt _)
  have hy' : (UInt32.ofNat y).toNat = y := UInt32.toNat_ofNat_of_lt' hy32
  have hx' : (UInt32.ofNat x).toNat = x := UInt32.toNat_ofNat_of_lt' hx32
  rw [← hy', ← hx'] at hround
  obtain ⟨source, hsource, hround⟩ := Option.bind_eq_some_iff.mp hround
  obtain ⟨color, hcolor, hround⟩ := Option.bind_eq_some_iff.mp hround
  obtain ⟨hsourceX, hsourceY⟩ := sourcePixel_agrees hp hsource
  rw [← hsourceX, ← hsourceY, UInt32.ofNat_toNat, UInt32.ofNat_toNat] at hcolor
  rw [hcolor]
  by_cases halpha : color.alpha = 0
  · rw [if_pos halpha] at hround
    show (if _ ∨ _ then _ else _) = _
    rw [if_pos (Or.inl halpha)]
    exact hround
  · rw [if_neg halpha] at hround
    have hwrite := writePixel_agrees hp.destX hp.destY hround
    show (if _ ∨ _ then _ else _) = _
    simp only [halpha, false_or]
    exact hwrite

end Parts

/-! ## The player, and both views -/

section Views

variable {F : Type} [F32 F] {texture : RgbaImage} {originX originY scale : UInt32}

/-- The loop over the parts. -/
theorem drawParts_of_checked {parts : List Part} {output output' : RgbaImage}
    (h : drawPartsChecked F texture originX.toNat originY.toNat scale.toNat parts output =
      some output') :
    parts.foldlM (fun output part => drawPart F texture originX originY scale part output)
      output = some output' := by
  induction parts generalizing output with
  | nil => exact h
  | cons part parts ih =>
      obtain ⟨drawn, hpart, hparts⟩ := Option.bind_eq_some_iff.mp h
      rw [List.foldlM_cons, drawPart_of_checked hpart]
      exact ih hparts

/-- The outer layer is expanded by a quotient of the scale. -/
theorem ofNat_expand (layer : Bool) (divisor : UInt32) :
    UInt32.ofNat (if layer then scale.toNat / divisor.toNat else 0) =
      if layer then scale / divisor else 0 := by
  cases layer with
  | true =>
      show UInt32.ofNat (scale.toNat / divisor.toNat) = scale / divisor
      rw [← UInt32.toNat_div, UInt32.ofNat_toNat]
  | false => rfl

/-- **A player** that is drawn with checks is drawn without them. -/
theorem drawFlatPlayer_of_checked {layout : FlatLayout} {legacy layer : Bool} {view : View}
    {output output' : RgbaImage}
    (h : drawFlatPlayerChecked F texture layout.armWidth originY.toNat scale.toNat legacy layer
      view originX.toNat output = some output') :
    drawFlatPlayer F texture ⟨layout, originY, scale, legacy, layer⟩ view originX output =
      some output' := by
  have hhead : UInt32.ofNat (if layer then scale.toNat / 2 else 0) =
      if layer then scale / 2 else 0 := ofNat_expand layer 2
  have hbody : UInt32.ofNat (if layer then scale.toNat / 4 else 0) =
      if layer then scale / 4 else 0 := ofNat_expand layer 4
  unfold drawFlatPlayerChecked at h
  dsimp only at h
  rw [hhead, hbody] at h
  exact drawParts_of_checked h

variable {model : SkinModel} {options : Skin2dPreviewOptions}

/-- The width of both players. -/
theorem toNat_modelWidth : ((FlatLayout.new model).playerWidth * 2).toNat = modelWidth model := by
  cases model <;> rfl

/-- Where the views are drawn, in the numbers of the wrapping operations. -/
structure ViewPlacement.Agrees (views : ViewPlacement) (model : SkinModel)
    (options : Skin2dPreviewOptions) (scale : UInt32) : Prop where
  startX : ((options.outputWidth - ((FlatLayout.new model).playerWidth * 2 * scale +
    options.viewSpacing)) / 2).toNat = views.startX
  startY : ((options.outputHeight - playerHeight * scale) / 2).toNat = views.startY
  backX : ((options.outputWidth - ((FlatLayout.new model).playerWidth * 2 * scale +
      options.viewSpacing)) / 2 + (FlatLayout.new model).playerWidth * scale +
    options.viewSpacing).toNat = views.backX

theorem placeViews_agrees {views : ViewPlacement} (hscale : scale.toNat = exactScale options model)
    (h : placeViews options model = some views) : views.Agrees model options scale := by
  have htwo : (2 : UInt32).toNat = 2 := rfl
  have hplayer : playerHeight.toNat = 32 := rfl
  obtain ⟨_, -, h⟩ := Option.bind_eq_some_iff.mp h
  obtain ⟨players, hplayers, h⟩ := Option.bind_eq_some_iff.mp h
  obtain ⟨renderedWidth, hwidth, h⟩ := Option.bind_eq_some_iff.mp h
  obtain ⟨renderedHeight, hheight, h⟩ := Option.bind_eq_some_iff.mp h
  obtain ⟨freeX, hfreeX, h⟩ := Option.bind_eq_some_iff.mp h
  obtain ⟨freeY, hfreeY, h⟩ := Option.bind_eq_some_iff.mp h
  obtain ⟨player, hplayerWidth, h⟩ := Option.bind_eq_some_iff.mp h
  obtain ⟨middle, hmiddle, h⟩ := Option.bind_eq_some_iff.mp h
  obtain ⟨backX, hbackX, h⟩ := Option.bind_eq_some_iff.mp h
  rw [← Option.some.inj h]
  rw [← toNat_modelWidth, ← hscale] at hplayers
  rw [← toNat_mul_of_u32 hplayers] at hwidth
  rw [← toNat_add_of_u32 hwidth] at hfreeX
  rw [← hplayer, ← hscale] at hheight
  rw [← toNat_mul_of_u32 hheight] at hfreeY
  rw [← hscale] at hplayerWidth
  have hstartX := toNat_sub_of_minus hfreeX
  have hstartY := toNat_sub_of_minus hfreeY
  rw [← hstartX, ← htwo, ← UInt32.toNat_div, ← toNat_mul_of_u32 hplayerWidth] at hmiddle
  rw [← toNat_add_of_u32 hmiddle] at hbackX
  constructor
  · rw [UInt32.toNat_div, hstartX]
    rfl
  · rw [UInt32.toNat_div, hstartY]
    rfl
  · exact toNat_add_of_u32 hbackX

/-- **Where the flat engine succeeds with checks,** it draws the same picture without them, as
long as the floats give the scale that the exact numbers give. -/
theorem drawPlayerViews_of_checked {output output' : RgbaImage}
    (hscale : (viewScale F model options).toNat = exactScale options model)
    (h : drawPlayerViewsChecked F texture model options output = some output') :
    drawPlayerViews F texture model options output = some output' := by
  obtain ⟨doubled, hdoubled, h⟩ := Option.bind_eq_some_iff.mp h
  obtain ⟨views, hviews, h⟩ := Option.bind_eq_some_iff.mp h
  obtain ⟨front, hfront, h⟩ := Option.bind_eq_some_iff.mp h
  obtain ⟨back, hback, h⟩ := Option.bind_eq_some_iff.mp h
  have hplaces := placeViews_agrees hscale hviews
  have hlegacy : (doubled == texture.width.toNat) = (texture.height * 2 == texture.width) := by
    have htwo : (2 : UInt32).toNat = 2 := rfl
    rw [← htwo] at hdoubled
    rw [← toNat_mul_of_u32 hdoubled, Bool.eq_iff_iff, beq_iff_eq, beq_iff_eq]
    exact UInt32.toNat_inj
  rw [hlegacy, ← hscale, ← hplaces.startX, ← hplaces.startY] at hfront
  rw [hlegacy, ← hscale, ← hplaces.backX, ← hplaces.startY] at hback
  rw [hlegacy, ← hscale, ← hplaces.startX, ← hplaces.backX, ← hplaces.startY] at h
  unfold drawPlayerViews
  dsimp only
  rw [drawFlatPlayer_of_checked hfront, Option.bind_eq_bind, Option.bind_some,
    drawFlatPlayer_of_checked hback, Option.bind_some]
  by_cases houter : (options.showOuterLayer && !(texture.height * 2 == texture.width)) = true
  · rw [if_pos houter] at h ⊢
    obtain ⟨layered, hlayered, h⟩ := Option.bind_eq_some_iff.mp h
    rw [drawFlatPlayer_of_checked hlayered, Option.bind_some]
    exact drawFlatPlayer_of_checked h
  · rw [if_neg houter] at h ⊢
    exact h

end Views

end AsterYggdrasil.Renderer.Skin2d
