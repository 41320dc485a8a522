import AsterYggdrasil.Frontend.PixelBuffer
import AsterYggdrasil.Frontend.SkinHistory

/-!
# Swapping the pixels of a canvas

The history keeps pixels as packed numbers, and their indices as `u32`s.  `swapPixelColors` splits
the indices into runs of neighbours in one row, and swaps the colors of each run with those of
the canvas.

**`swapPixelColors_ok`**: if the indices are on the canvas and no two are equal, every read and
write is on the canvas, nothing is thrown, and the colors of these pixels and of no others are
exchanged.
-/

namespace AsterYggdrasil.SkinPage

open SkinPixels

/-! ## Packed pixels -/

/-- `packedPixel`. -/
def packedPixel (color : Color) : UInt32 :=
  color.red.toUInt32 ||| color.green.toUInt32 <<< 8 ||| color.blue.toUInt32 <<< 16 |||
    color.alpha.toUInt32 <<< 24

/-- The bytes that `swapPackedPixelColors` takes from a packed pixel. -/
def unpackedPixel (color : UInt32) : Color :=
  ⟨(color &&& 0xff).toUInt8, (color >>> 8 &&& 0xff).toUInt8, (color >>> 16 &&& 0xff).toUInt8,
    (color >>> 24 &&& 0xff).toUInt8⟩

/-- Bits at different places. -/
theorem or_shiftLeft {a b i : Nat} (h : a < 2 ^ i) : a ||| b <<< i = a + b * 2 ^ i := by
  rw [Nat.or_comm, ← Nat.shiftLeft_add_eq_or_of_lt h, Nat.shiftLeft_eq, Nat.add_comm]

theorem toNat_packedPixel (color : Color) :
    (packedPixel color).toNat = color.red.toNat + color.green.toNat * 2 ^ 8 +
      color.blue.toNat * 2 ^ 16 + color.alpha.toNat * 2 ^ 24 := by
  have hred := color.red.toNat_lt
  have hgreen := color.green.toNat_lt
  have hblue := color.blue.toNat_lt
  have halpha := color.alpha.toNat_lt
  have hshift : ∀ {b i : Nat}, b < 2 ^ 8 → i ≤ 24 → b <<< i % 2 ^ 32 = b <<< i := by
    intro b i hb hi
    apply Nat.mod_eq_of_lt
    calc b <<< i = b * 2 ^ i := Nat.shiftLeft_eq ..
      _ < 2 ^ 8 * 2 ^ i := Nat.mul_lt_mul_of_pos_right hb (Nat.two_pow_pos i)
      _ ≤ 2 ^ 8 * 2 ^ 24 := Nat.mul_le_mul_left _ (Nat.pow_le_pow_right (by decide) hi)
      _ = 2 ^ 32 := rfl
  have h8 : UInt32.toNat 8 % 32 = 8 := rfl
  have h16 : UInt32.toNat 16 % 32 = 16 := rfl
  have h24 : UInt32.toNat 24 % 32 = 24 := rfl
  simp only [packedPixel, UInt32.toNat_or, UInt32.toNat_shiftLeft, UInt8.toNat_toUInt32, h8, h16,
    h24]
  have hlow : color.red.toNat + color.green.toNat * 2 ^ 8 < 2 ^ 16 := by omega
  have hmiddle : color.red.toNat + color.green.toNat * 2 ^ 8 + color.blue.toNat * 2 ^ 16 <
      2 ^ 24 := by
    omega
  rw [hshift hgreen (by decide), hshift hblue (by decide), hshift halpha (by decide),
    or_shiftLeft hred, or_shiftLeft hlow, or_shiftLeft hmiddle]

theorem unpackedPixel_eq (color : UInt32) :
    unpackedPixel color = ⟨UInt8.ofNat color.toNat, UInt8.ofNat (color.toNat / 2 ^ 8),
      UInt8.ofNat (color.toNat / 2 ^ 16), UInt8.ofNat (color.toNat / 2 ^ 24)⟩ := by
  have hmask : (0xff : UInt32).toNat = 2 ^ 8 - 1 := rfl
  have h8 : UInt32.toNat 8 % 32 = 8 := rfl
  have h16 : UInt32.toNat 16 % 32 = 16 := rfl
  have h24 : UInt32.toNat 24 % 32 = 24 := rfl
  simp only [unpackedPixel, Color.mk.injEq, ← UInt8.toNat_inj, UInt32.toNat_toUInt8,
    UInt32.toNat_and, UInt32.toNat_shiftRight, hmask, h8, h16, h24,
    Nat.and_two_pow_sub_one_eq_mod, Nat.shiftRight_eq_div_pow, UInt8.toNat_ofNat', Nat.mod_mod,
    and_self]

/-- **Nothing is lost by packing.** -/
@[simp] theorem unpackedPixel_packedPixel (color : Color) :
    unpackedPixel (packedPixel color) = color := by
  have hred := color.red.toNat_lt
  have hgreen := color.green.toNat_lt
  have hblue := color.blue.toNat_lt
  have halpha := color.alpha.toNat_lt
  rw [unpackedPixel_eq, toNat_packedPixel]
  obtain ⟨red, green, blue, alpha⟩ := color
  simp only [Color.mk.injEq, ← UInt8.toNat_inj, UInt8.toNat_ofNat']
  dsimp only at hred hgreen hblue halpha
  omega

@[simp] theorem packedPixel_unpackedPixel (color : UInt32) :
    packedPixel (unpackedPixel color) = color := by
  have hlt := color.toNat_lt
  rw [← UInt32.toNat_inj, toNat_packedPixel, unpackedPixel_eq]
  simp only [UInt8.toNat_ofNat']
  omega

theorem packedPixel_injective : Function.Injective packedPixel :=
  Function.LeftInverse.injective unpackedPixel_packedPixel

/-! ## Swaps of packed pixels -/

/-- What `swapPixelColors` can run into. -/
inductive Failure
  /-- A pixel outside of the canvas is read or written. -/
  | outside
  | thrown (message : String)
  deriving DecidableEq, Repr

/-- The loop of `swapPackedPixelColors`, from an index on: the bytes, and the previous colors. -/
def swapFrom : Nat → List UInt32 → List UInt8 → List UInt8 × List UInt32
  | _, [], pixels => (pixels, [])
  | index, color :: colors, pixels =>
      let previous := packedPixel (colorAt pixels index)
      let (pixels, rest) :=
        swapFrom (index + 1) colors (setColor pixels index (unpackedPixel color))
      (pixels, previous :: rest)

/-- `swapPackedPixelColors`. -/
def swapPackedPixelColors (pixels : List UInt8) (colors : List UInt32) :
    Except Failure (List UInt8 × List UInt32) :=
  if pixels.length ≠ colors.length * 4 then .error (.thrown "invalid_skin_history")
  else .ok (swapFrom 0 colors pixels)

section SwapFrom

variable {colors : List UInt32} {pixels : List UInt8} {index : Nat}

theorem length_swapFrom (index : Nat) (colors : List UInt32) (pixels : List UInt8) :
    (swapFrom index colors pixels).1.length = pixels.length := by
  induction colors generalizing index pixels with
  | nil => rfl
  | cons color colors ih => exact (ih ..).trans (length_setColor ..)

/-- The colors are written. -/
theorem colorAt_swapFrom (h : (index + colors.length) * 4 ≤ pixels.length) (i : Nat) :
    colorAt (swapFrom index colors pixels).1 i =
      if index ≤ i ∧ i < index + colors.length then unpackedPixel (colors.getD (i - index) 0)
      else colorAt pixels i := by
  induction colors generalizing index pixels with
  | nil => rw [if_neg (by simp only [List.length_nil]; omega), swapFrom]
  | cons color colors ih =>
      rw [List.length_cons] at h ⊢
      have hplace : index * 4 + 3 < pixels.length := by omega
      have hrest : (index + 1 + colors.length) * 4 ≤
          (setColor pixels index (unpackedPixel color)).length := by
        rw [length_setColor]
        omega
      simp only [swapFrom]
      rw [ih hrest, colorAt_setColor _ hplace]
      by_cases hsame : i = index
      · subst hsame
        rw [if_neg (by omega), if_pos rfl, if_pos (by omega), Nat.sub_self]
        rfl
      · rw [if_neg hsame]
        by_cases hin : index + 1 ≤ i ∧ i < index + 1 + colors.length
        · rw [if_pos hin, if_pos (by omega), show i - index = i - (index + 1) + 1 by omega]
          rfl
        · rw [if_neg hin, if_neg (by omega)]

/-- The colors that were there are returned. -/
theorem swapFrom_previous (h : (index + colors.length) * 4 ≤ pixels.length) :
    (swapFrom index colors pixels).2 =
      (List.range' index colors.length).map fun i => packedPixel (colorAt pixels i) := by
  induction colors generalizing index pixels with
  | nil => rfl
  | cons color colors ih =>
      rw [List.length_cons] at h
      have hplace : index * 4 + 3 < pixels.length := by omega
      have hrest : (index + 1 + colors.length) * 4 ≤
          (setColor pixels index (unpackedPixel color)).length := by
        rw [length_setColor]
        omega
      simp only [swapFrom, List.length_cons, List.range'_succ, List.map_cons, List.cons.injEq,
        true_and]
      rw [ih hrest]
      apply List.map_congr_left
      intro i hi
      have hlower := List.mem_range'_1.mp hi
      rw [colorAt_setColor _ hplace, if_neg (by omega)]

/-- **Packed pixels are swapped.** -/
theorem swapPackedPixelColors_ok (h : pixels.length = colors.length * 4) :
    ∃ pixels', swapPackedPixelColors pixels colors = .ok (pixels',
        (List.range colors.length).map fun i => packedPixel (colorAt pixels i)) ∧
      pixels'.length = pixels.length ∧
      ∀ i < colors.length, colorAt pixels' i = unpackedPixel (colors.getD i 0) := by
  have hall : (0 + colors.length) * 4 ≤ pixels.length := by omega
  have hprevious := swapFrom_previous hall
  rw [← List.range_eq_range'] at hprevious
  refine ⟨(swapFrom 0 colors pixels).1, ?_, length_swapFrom .., fun i hi => ?_⟩
  · rw [swapPackedPixelColors, if_neg (not_not_intro h), ← hprevious]
  · rw [colorAt_swapFrom hall, if_pos (by omega), Nat.sub_zero]

end SwapFrom

/-! ## Canvases -/

/-- A square canvas.  Its size is one that `skinScale` accepts. -/
structure Canvas where
  size : Nat
  data : List UInt8
  sized : ValidSize size
  filled : data.length = size * size * 4
  deriving DecidableEq

/-- Some bytes are replaced. -/
def splice (data image : List UInt8) (offset : Nat) : List UInt8 :=
  data.take offset ++ image ++ data.drop (offset + image.length)

theorem length_splice {data image : List UInt8} {offset : Nat}
    (h : offset + image.length ≤ data.length) : (splice data image offset).length = data.length := by
  simp only [splice, List.length_append, List.length_take, List.length_drop]
  omega

theorem getD_splice {data image : List UInt8} {offset : Nat}
    (h : offset + image.length ≤ data.length) (i : Nat) :
    (splice data image offset).getD i 0 =
      if offset ≤ i ∧ i < offset + image.length then image.getD (i - offset) 0
      else data.getD i 0 := by
  have htake : (data.take offset).length = offset := by
    rw [List.length_take]
    omega
  simp only [splice, List.getD_eq_getElem?_getD, List.append_assoc]
  by_cases hbefore : i < offset
  · rw [List.getElem?_append_left (by omega), List.getElem?_take_of_lt hbefore,
      if_neg (by omega)]
  · rw [List.getElem?_append_right (by omega), htake]
    by_cases hin : i < offset + image.length
    · rw [List.getElem?_append_left (by omega), if_pos (by omega)]
    · rw [List.getElem?_append_right (by omega), List.getElem?_drop, if_neg (by omega),
        show offset + image.length + (i - offset - image.length) = i by omega]

/-- The pixels of a buffer of which some were replaced. -/
theorem colorAt_splice {data image : List UInt8} {first width : Nat}
    (hwidth : image.length = width * 4) (h : (first + width) * 4 ≤ data.length) (i : Nat) :
    colorAt (splice data image (first * 4)) i =
      if first ≤ i ∧ i < first + width then colorAt image (i - first) else colorAt data i := by
  simp only [colorAt, getD_splice (show first * 4 + image.length ≤ data.length by omega), hwidth]
  by_cases hin : first ≤ i ∧ i < first + width
  · have hoffset : (i - first) * 4 = i * 4 - first * 4 := Nat.sub_mul ..
    rw [if_pos hin, if_pos (by omega), if_pos (by omega), if_pos (by omega), if_pos (by omega),
      hoffset, show i * 4 + 1 - first * 4 = i * 4 - first * 4 + 1 by omega,
      show i * 4 + 2 - first * 4 = i * 4 - first * 4 + 2 by omega,
      show i * 4 + 3 - first * 4 = i * 4 - first * 4 + 3 by omega]
  · rw [if_neg hin, if_neg (by omega), if_neg (by omega), if_neg (by omega), if_neg (by omega)]

/-- The pixels of a part of a buffer. -/
theorem colorAt_take_drop (data : List UInt8) {first width i : Nat} (hi : i < width) :
    colorAt ((data.drop (first * 4)).take (width * 4)) i = colorAt data (first + i) := by
  simp only [colorAt, List.getD_eq_getElem?_getD, List.getElem?_take, List.getElem?_drop,
    Nat.add_mul]
  rw [if_pos (by omega), if_pos (by omega), if_pos (by omega), if_pos (by omega)]
  simp only [Nat.add_assoc]

namespace Canvas

/-- `getImageData` of some pixels of a row. -/
def getImageData (canvas : Canvas) (x y width : Nat) : Except Failure (List UInt8) :=
  if x + width ≤ canvas.size ∧ y < canvas.size then
    .ok ((canvas.data.drop ((y * canvas.size + x) * 4)).take (width * 4))
  else .error .outside

theorem row_le {size x y width : Nat} (hx : x + width ≤ size) (hy : y < size) :
    y * size + x + width ≤ size * size :=
  calc y * size + x + width ≤ y * size + size := by omega
    _ = (y + 1) * size := (Nat.succ_mul ..).symm
    _ ≤ size * size := Nat.mul_le_mul_right _ hy

/-- `putImageData` of some pixels of a row. -/
def putImageData (canvas : Canvas) (image : List UInt8) (x y : Nat) : Except Failure Canvas :=
  if h : x * 4 + image.length ≤ canvas.size * 4 ∧ y < canvas.size then
    .ok { canvas with
      data := splice canvas.data image ((y * canvas.size + x) * 4)
      filled := by
        have hrow := row_le (show 0 + canvas.size ≤ canvas.size by omega) h.2
        rw [length_splice, canvas.filled]
        rw [canvas.filled]
        omega }
  else .error .outside

section

variable {canvas : Canvas} {x y width : Nat}

theorem getImageData_ok (hx : x + width ≤ canvas.size) (hy : y < canvas.size) :
    ∃ image, canvas.getImageData x y width = .ok image ∧ image.length = width * 4 ∧
      ∀ i < width, colorAt image i = colorAt canvas.data (y * canvas.size + x + i) := by
  have hrow := row_le hx hy
  refine ⟨_, if_pos ⟨hx, hy⟩, ?_, fun i hi => colorAt_take_drop _ hi⟩
  rw [List.length_take, List.length_drop, canvas.filled]
  omega

theorem putImageData_ok {image : List UInt8} (hwidth : image.length = width * 4)
    (hx : x + width ≤ canvas.size) (hy : y < canvas.size) :
    ∃ canvas', canvas.putImageData image x y = .ok canvas' ∧ canvas'.size = canvas.size ∧
      ∀ i, colorAt canvas'.data i =
        if y * canvas.size + x ≤ i ∧ i < y * canvas.size + x + width then
          colorAt image (i - (y * canvas.size + x))
        else colorAt canvas.data i := by
  have hrow := row_le hx hy
  refine ⟨_, dif_pos ⟨by omega, hy⟩, rfl, colorAt_splice hwidth ?_⟩
  rw [canvas.filled]
  omega

end

end Canvas

/-! ## Runs -/

/-- `indices[i]`. -/
def indexAt (indices : List UInt32) (i : Nat) : Nat := (indices.getD i 0).toNat

/-- The inner loop of `swapPixelColors`: where a run of neighbours in a row ends. -/
def runEnd (indices : List UInt32) (skinSize row : Nat) : Nat → Nat → Nat
  | 0, stop => stop
  | rounds + 1, stop =>
      if stop < indices.length ∧ indexAt indices stop = indexAt indices (stop - 1) + 1 ∧
          indexAt indices stop / skinSize = row then
        runEnd indices skinSize row rounds (stop + 1)
      else stop

/-- The pixels of a run are swapped. -/
def swapRun (indices colors : List UInt32) (skinSize cursor stop : Nat) (canvas : Canvas) :
    Except Failure (Canvas × List UInt32) := do
  let row := indexAt indices cursor / skinSize
  let x := indexAt indices cursor % skinSize
  let image ← canvas.getImageData x row (stop - cursor)
  let (image, previous) ←
    swapPackedPixelColors image ((colors.drop cursor).take (stop - cursor))
  let canvas ← canvas.putImageData image x row
  pure (canvas, previous)

theorem le_runEnd (indices : List UInt32) (skinSize row rounds stop : Nat) :
    stop ≤ runEnd indices skinSize row rounds stop := by
  induction rounds generalizing stop with
  | zero => exact Nat.le_refl _
  | succ rounds ih =>
      rw [runEnd]
      split
      · exact Nat.le_of_succ_le (ih (stop + 1))
      · exact Nat.le_refl _

/-- The outer loop of `swapPixelColors`. -/
def swapRuns (indices colors : List UInt32) (skinSize cursor : Nat) (canvas : Canvas)
    (previous : List UInt32) : Except Failure (Canvas × List UInt32) :=
  if _h : cursor < indices.length then do
    let stop := runEnd indices skinSize (indexAt indices cursor / skinSize) indices.length
      (cursor + 1)
    let (canvas, found) ← swapRun indices colors skinSize cursor stop canvas
    swapRuns indices colors skinSize stop canvas (previous ++ found)
  else pure (canvas, previous)
termination_by indices.length - cursor
decreasing_by
  have hstop := le_runEnd indices skinSize (indexAt indices cursor / skinSize) indices.length
    (cursor + 1)
  omega

/-- `swapPixelColors`. -/
def swapPixelColors (canvas : Canvas) (indices colors : List UInt32) (skinSize : Nat) :
    Except Failure (Canvas × List UInt32) :=
  swapRuns indices colors skinSize 0 canvas []

/-- Neighbours in a row. -/
structure IsRun (indices : List UInt32) (skinSize cursor stop : Nat) : Prop where
  lower : cursor < stop
  upper : stop ≤ indices.length
  row : ∀ j, cursor + j < stop → indexAt indices (cursor + j) = indexAt indices cursor + j ∧
    indexAt indices (cursor + j) / skinSize = indexAt indices cursor / skinSize

theorem isRun_runEnd {indices : List UInt32} {skinSize cursor : Nat} (rounds : Nat) {stop : Nat}
    (h : IsRun indices skinSize cursor stop) :
    IsRun indices skinSize cursor
      (runEnd indices skinSize (indexAt indices cursor / skinSize) rounds stop) := by
  induction rounds generalizing stop with
  | zero => exact h
  | succ rounds ih =>
      rw [runEnd]
      split
      · next hnext =>
          obtain ⟨hlt, hneighbour, hrow⟩ := hnext
          apply ih
          refine ⟨Nat.lt_succ_of_lt h.lower, hlt, fun j hj => ?_⟩
          by_cases hold : cursor + j < stop
          · exact h.row j hold
          · have hlower := h.lower
            have hstop : cursor + j = stop := by omega
            have hlast := (h.row (j - 1) (by omega)).1
            rw [show cursor + (j - 1) = stop - 1 by omega] at hlast
            rw [hstop]
            exact ⟨by omega, hrow⟩
      · exact h

/-- A run is on the canvas. -/
theorem IsRun.fits {indices : List UInt32} {skinSize cursor stop : Nat}
    (h : IsRun indices skinSize cursor stop) (hsize : 0 < skinSize) :
    indexAt indices cursor % skinSize + (stop - cursor) ≤ skinSize := by
  have hlower := h.lower
  obtain ⟨hindex, hrow⟩ := h.row (stop - cursor - 1) (by omega)
  rw [hindex, Nat.div_eq_iff hsize] at hrow
  have hfirst := Nat.div_add_mod (indexAt indices cursor) skinSize
  rw [Nat.mul_comm] at hfirst
  omega

section Swaps

variable {canvas : Canvas} {indices colors : List UInt32} {cursor stop : Nat}

/-- **A run is swapped** with the colors for it. -/
theorem swapRun_ok (hrun : IsRun indices canvas.size cursor stop)
    (hfirst : indexAt indices cursor < canvas.size * canvas.size) (hcolors : stop ≤ colors.length) :
    ∃ canvas', swapRun indices colors canvas.size cursor stop canvas =
        .ok (canvas', (List.range' (indexAt indices cursor) (stop - cursor)).map fun i =>
          packedPixel (colorAt canvas.data i)) ∧
      canvas'.size = canvas.size ∧
      ∀ i, colorAt canvas'.data i =
        if indexAt indices cursor ≤ i ∧ i < indexAt indices cursor + (stop - cursor) then
          unpackedPixel (colors.getD (cursor + (i - indexAt indices cursor)) 0)
        else colorAt canvas.data i := by
  have hsize : 0 < canvas.size := Nat.pos_of_lt_mul_left hfirst
  have hfits := hrun.fits hsize
  have hrow : indexAt indices cursor / canvas.size < canvas.size :=
    (Nat.div_lt_iff_lt_mul hsize).mpr hfirst
  have hplace : indexAt indices cursor / canvas.size * canvas.size +
      indexAt indices cursor % canvas.size = indexAt indices cursor := by
    rw [Nat.mul_comm]
    exact Nat.div_add_mod ..
  have hbound := Canvas.row_le hfits hrow
  rw [hplace] at hbound
  generalize hindex : indexAt indices cursor = first at *
  generalize hwidth : stop - cursor = width at *
  have htaken : ((colors.drop cursor).take width).length = width := by
    rw [List.length_take, List.length_drop]
    omega
  obtain ⟨image, hread, hlength, hshown⟩ := Canvas.getImageData_ok hfits hrow
  obtain ⟨swapped, hswap, hsame, hcolored⟩ :=
    swapPackedPixelColors_ok (hlength.trans (congrArg (· * 4) htaken.symm))
  obtain ⟨canvas', hwrite, hsize', hshown'⟩ :=
    Canvas.putImageData_ok (hsame.trans hlength) hfits hrow
  rw [htaken] at hswap hcolored
  rw [hplace] at hshown hshown'
  refine ⟨canvas', ?_, hsize', fun i => ?_⟩
  · have hprevious : (List.range width).map (fun i => packedPixel (colorAt image i)) =
        (List.range' first width).map fun i => packedPixel (colorAt canvas.data i) := by
      rw [List.range'_eq_map_range, List.map_map]
      apply List.map_congr_left
      intro i hi
      rw [hshown i (List.mem_range.mp hi)]
      rfl
    rw [← hprevious]
    simp only [swapRun, hindex, hwidth, hread, hswap, hwrite, bind, Except.bind]
    rfl
  · rw [hshown' i]
    by_cases hin : first ≤ i ∧ i < first + width
    · rw [if_pos hin, if_pos hin, hcolored _ (by omega), List.getD_eq_getElem?_getD,
        List.getElem?_take_of_lt (by omega), List.getElem?_drop, ← List.getD_eq_getElem?_getD]
    · rw [if_neg hin, if_neg hin]

/-- `indices[j]` is in the list. -/
theorem indexAt_eq {j : Nat} (hj : j < indices.length) : indexAt indices j = (indices[j]).toNat := by
  rw [indexAt, List.getD_eq_getElem _ _ hj]

theorem indexAt_inj (hnodup : indices.Nodup) {j k : Nat} (hj : j < indices.length)
    (hk : k < indices.length) (h : indexAt indices j = indexAt indices k) : j = k := by
  rw [indexAt_eq hj, indexAt_eq hk, UInt32.toNat_inj] at h
  exact (hnodup.getElem_inj_iff).mp h

/-- The indices of a run. -/
theorem IsRun.take_drop {skinSize : Nat} (hrun : IsRun indices skinSize cursor stop) :
    ((indices.drop cursor).take (stop - cursor)).map UInt32.toNat =
      List.range' (indexAt indices cursor) (stop - cursor) := by
  have hupper := hrun.upper
  have hlength : ((indices.drop cursor).take (stop - cursor)).length = stop - cursor := by
    rw [List.length_take, List.length_drop]
    omega
  apply List.ext_getElem
  · rw [List.length_map, hlength, List.length_range']
  · intro j hj _
    rw [List.length_map, hlength] at hj
    rw [List.getElem_map, List.getElem_take, List.getElem_drop, List.getElem_range', Nat.one_mul,
      ← indexAt_eq]
    exact (hrun.row j (by omega)).1

/-- Indices after a run are not in it. -/
theorem IsRun.not_mem {skinSize : Nat} (hrun : IsRun indices skinSize cursor stop)
    (hnodup : indices.Nodup) {j : Nat} (hj : stop ≤ j) (hlt : j < indices.length) :
    ¬(indexAt indices cursor ≤ indexAt indices j ∧
      indexAt indices j < indexAt indices cursor + (stop - cursor)) := by
  rintro ⟨hlower, hupper⟩
  have hstop := hrun.upper
  obtain ⟨hsame, -⟩ := hrun.row (indexAt indices j - indexAt indices cursor) (by omega)
  have heq := indexAt_inj hnodup (by omega) hlt
    (hsame.trans (Nat.add_sub_cancel' hlower))
  omega

/-- **The runs from one on are swapped.**  Colors that were written before stay, as no index occurs
twice. -/
theorem swapRuns_ok (cursor : Nat) (hlength : colors.length = indices.length) (hnodup : indices.Nodup)
    (hinside : ∀ i ∈ indices, i.toNat < canvas.size * canvas.size) (previous : List UInt32) :
    ∃ canvas', swapRuns indices colors canvas.size cursor canvas previous =
        .ok (canvas', previous ++ (indices.drop cursor).map fun i =>
          packedPixel (colorAt canvas.data i.toNat)) ∧
      canvas'.size = canvas.size ∧
      (∀ j, cursor ≤ j → j < indices.length →
        colorAt canvas'.data (indexAt indices j) = unpackedPixel (colors.getD j 0)) ∧
      ∀ i, (∀ j, cursor ≤ j → j < indices.length → indexAt indices j ≠ i) →
        colorAt canvas'.data i = colorAt canvas.data i := by
  induction hk : indices.length - cursor using Nat.strong_induction_on
    generalizing cursor canvas previous with
  | _ k ih =>
    by_cases hcursor : cursor < indices.length
    · have hfirst : indexAt indices cursor < canvas.size * canvas.size := by
        rw [indexAt_eq hcursor]
        exact hinside _ (List.getElem_mem hcursor)
      have hstart : IsRun indices canvas.size cursor (cursor + 1) := by
        refine ⟨Nat.lt_succ_self _, hcursor, fun j hj => ?_⟩
        obtain rfl : j = 0 := by omega
        exact ⟨rfl, rfl⟩
      have hrun := isRun_runEnd indices.length hstart
      rw [swapRuns, dif_pos hcursor]
      dsimp only
      generalize runEnd indices canvas.size (indexAt indices cursor / canvas.size) indices.length
        (cursor + 1) = stop at *
      have hlower := hrun.lower
      have hupper := hrun.upper
      have hcolors : stop ≤ colors.length := by rwa [hlength]
      obtain ⟨canvas₁, hswap, hsize₁, hshown₁⟩ := swapRun_ok hrun hfirst hcolors
      have hinside₁ : ∀ i ∈ indices, i.toNat < canvas₁.size * canvas₁.size := by rwa [hsize₁]
      have hfewer : indices.length - stop < k := by omega
      obtain ⟨canvas₂, hrest, hsize₂, hwritten, hkept⟩ := ih _ hfewer stop hinside₁
        (previous ++ (List.range' (indexAt indices cursor) (stop - cursor)).map fun i =>
          packedPixel (colorAt canvas.data i)) rfl
      rw [hsize₁] at hrest hsize₂
      refine ⟨canvas₂, ?_, hsize₂, fun j hj hlt => ?_, fun i hi => ?_⟩
      · have hafter : (indices.drop stop).map (fun i => packedPixel (colorAt canvas₁.data i.toNat)) =
            (indices.drop stop).map fun i => packedPixel (colorAt canvas.data i.toNat) := by
          apply List.map_congr_left
          intro i hi
          obtain ⟨j, hj, rfl⟩ := List.mem_iff_getElem.mp hi
          rw [List.length_drop] at hj
          have hlt : stop + j < indices.length := by omega
          rw [List.getElem_drop, ← indexAt_eq hlt, hshown₁,
            if_neg (hrun.not_mem hnodup (Nat.le_add_right ..) hlt)]
        have hbefore : (List.range' (indexAt indices cursor) (stop - cursor)).map (fun i =>
            packedPixel (colorAt canvas.data i)) =
            ((indices.drop cursor).take (stop - cursor)).map fun i =>
              packedPixel (colorAt canvas.data i.toNat) := by
          rw [← hrun.take_drop, List.map_map]
          rfl
        have hdrop : (indices.drop cursor).drop (stop - cursor) = indices.drop stop := by
          rw [List.drop_drop, Nat.add_sub_cancel' (Nat.le_of_lt hlower)]
        simp only [hswap, bind, Except.bind]
        rw [hrest, hafter, hbefore, List.append_assoc, ← List.map_append, ← hdrop,
          List.take_append_drop]
      · by_cases hold : stop ≤ j
        · exact hwritten j hold hlt
        · -- a pixel of the first run
          have hindex := (hrun.row (j - cursor) (by omega)).1
          rw [Nat.add_sub_cancel' hj] at hindex
          rw [hkept _ fun k hk hltk heq => ?_, hshown₁, if_pos (by omega), hindex,
            Nat.add_sub_cancel_left, Nat.add_sub_cancel' hj]
          have hsame := indexAt_inj hnodup hltk hlt heq
          omega
      · rw [hkept i fun j hj hlt => hi j (by omega) hlt, hshown₁, if_neg]
        rintro ⟨hle, hlt⟩
        have hin := (hrun.row (i - indexAt indices cursor) (by omega)).1
        exact hi (cursor + (i - indexAt indices cursor)) (by omega) (by omega) (by omega)
    · refine ⟨canvas, ?_, rfl, fun j hj hlt => absurd (Nat.lt_of_le_of_lt hj hlt) hcursor,
        fun _ _ => rfl⟩
      rw [swapRuns, dif_neg hcursor, List.drop_eq_nil_of_le (Nat.not_lt.mp hcursor), List.map_nil,
        List.append_nil]
      rfl

/-- **All pixels are swapped**, and no others. -/
theorem swapPixelColors_ok (hlength : colors.length = indices.length) (hnodup : indices.Nodup)
    (hinside : ∀ i ∈ indices, i.toNat < canvas.size * canvas.size) :
    ∃ canvas', swapPixelColors canvas indices colors canvas.size =
        .ok (canvas', indices.map fun i => packedPixel (colorAt canvas.data i.toNat)) ∧
      canvas'.size = canvas.size ∧
      (∀ p ∈ indices.zip colors, colorAt canvas'.data p.1.toNat = unpackedPixel p.2) ∧
      ∀ i, i ∉ indices.map UInt32.toNat →
        colorAt canvas'.data i = colorAt canvas.data i := by
  obtain ⟨canvas', hswap, hsize, hwritten, hkept⟩ := swapRuns_ok 0 hlength hnodup hinside []
  refine ⟨canvas', hswap, hsize, fun p hp => ?_, fun i hi => ?_⟩
  · obtain ⟨j, hj, rfl⟩ := List.mem_iff_getElem.mp hp
    rw [List.length_zip] at hj
    have hindex : j < indices.length := by omega
    have hcolor := hwritten j (Nat.zero_le j) hindex
    rw [indexAt_eq hindex, List.getD_eq_getElem _ _ (by omega)] at hcolor
    rwa [List.getElem_zip]
  · apply hkept
    intro j _ hj heq
    rw [indexAt_eq hj] at heq
    exact hi (heq ▸ List.mem_map_of_mem (List.getElem_mem hj))

end Swaps

end AsterYggdrasil.SkinPage
