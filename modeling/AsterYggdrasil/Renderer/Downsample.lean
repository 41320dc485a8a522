import AsterYggdrasil.Renderer.Pixels
import AsterYggdrasil.Renderer.RoundedMean
import AsterYggdrasil.Renderer.Skin3d

/-!
# Premultiplied downsampling

`downsample_premultiplied_into` with every operation on `u32`s checked: it fails where a sum or
a product overflows, a divisor is zero, or a pixel is read or written outside of its image.

The samples of a pixel are a block of the source.  Weighted by their alphas, their colours have
a rounded mean, and **`downsample_bounded`** says that every pixel of the output is that mean.
-/

namespace AsterYggdrasil.Renderer.Skin3d

open RoundedMean

/-! ## Downsampling with checks -/

/-- The sums of one pixel. -/
structure CheckedSums where
  alpha : Nat
  red : Nat
  green : Nat
  blue : Nat

def CheckedSums.add (sums : CheckedSums) (pixel : Rgba) : Option CheckedSums := do
  let alpha := pixel.alpha.toNat
  let alphaSum ← u32 (sums.alpha + alpha)
  let redSum ← u32 (sums.red + (← u32 (pixel.red.toNat * alpha)))
  let greenSum ← u32 (sums.green + (← u32 (pixel.green.toNat * alpha)))
  let blueSum ← u32 (sums.blue + (← u32 (pixel.blue.toNat * alpha)))
  some ⟨alphaSum, redSum, greenSum, blueSum⟩

/-- `div_round`. -/
def divRoundChecked (value divisor : Nat) : Option Nat := do
  quotient (← u32 (value + divisor / 2)) divisor

/-- `min(255) as u8`. -/
def cappedNat (value : Nat) : UInt8 := UInt8.ofNat (min value 255)

def CheckedSums.average (sums : CheckedSums) (samples : Nat) : Option Rgba := do
  let alpha ← divRoundChecked sums.alpha samples
  if sums.alpha = 0 then some transparent
  else do
    let red ← divRoundChecked sums.red sums.alpha
    let green ← divRoundChecked sums.green sums.alpha
    let blue ← divRoundChecked sums.blue sums.alpha
    some ⟨cappedNat red, cappedNat green, cappedNat blue, cappedNat alpha⟩

/-- The loops over the samples of one pixel. -/
def sumSamples (source : RgbaImage) (factor x y : Nat) : Option CheckedSums :=
  times factor (fun sampleY => times factor fun sampleX sums => do
    let sourceX ← u32 ((← u32 (x * factor)) + sampleX)
    let sourceY ← u32 ((← u32 (y * factor)) + sampleY)
    let pixel ← source.getPixel (UInt32.ofNat sourceX) (UInt32.ofNat sourceY)
    sums.add pixel) ⟨0, 0, 0, 0⟩

/-- `downsample_premultiplied_into`. -/
def downsampleChecked (source : RgbaImage) (outputWidth outputHeight factor : UInt32)
    (output : RgbaImage) : Option RgbaImage := do
  let samples ← u32 (factor.toNat * factor.toNat)
  times outputHeight.toNat (fun y => times outputWidth.toNat fun x output => do
    let sums ← sumSamples source factor.toNat x y
    let pixel ← sums.average samples
    output.putPixel (UInt32.ofNat x) (UInt32.ofNat y) pixel) output

/-! ## The mean of a block -/

/-- The coordinates of the samples of one pixel, in the order in which they are read. -/
def places (factor x y : Nat) : List (Nat × Nat) :=
  (List.range factor).flatMap fun sampleY => (List.range factor).map fun sampleX =>
    (x * factor + sampleX, y * factor + sampleY)

/-- The samples of one pixel. -/
def block (source : RgbaImage) (factor x y : Nat) : List Rgba :=
  (places factor x y).map fun place => source.pixelAt place.1 place.2

/-- The weight of a sample. -/
def alphaOf (pixel : Rgba) : Nat := pixel.alpha.toNat

def sumsOf (samples : List Rgba) : CheckedSums where
  alpha := weight alphaOf samples
  red := weighted alphaOf (fun pixel => pixel.red.toNat) samples
  green := weighted alphaOf (fun pixel => pixel.green.toNat) samples
  blue := weighted alphaOf (fun pixel => pixel.blue.toNat) samples

/-- The mean of one channel. -/
def meanOf (channel : Rgba → UInt8) (samples : List Rgba) : UInt8 :=
  UInt8.ofNat (roundDiv (weighted alphaOf (fun pixel => (channel pixel).toNat) samples)
    (weight alphaOf samples))

/-- The pixel that stands for the samples. -/
def averageOf (samples : List Rgba) : Rgba :=
  if weight alphaOf samples = 0 then transparent
  else ⟨meanOf Rgba.red samples, meanOf Rgba.green samples, meanOf Rgba.blue samples,
    UInt8.ofNat (roundDiv (weight alphaOf samples) samples.length)⟩

theorem block_length (source : RgbaImage) (factor x y : Nat) :
    (block source factor x y).length = factor * factor := by
  simp [block, places, List.length_flatMap]

theorem alphaSum_le (samples : List Rgba) : weight alphaOf samples ≤ 255 * samples.length :=
  weight_le fun pixel _ => Nat.le_of_lt_succ pixel.alpha.toNat_lt

theorem colourSum_le (channel : Rgba → UInt8) (samples : List Rgba) :
    weighted alphaOf (fun pixel => (channel pixel).toNat) samples ≤
      255 * (255 * samples.length) :=
  Nat.le_trans (weighted_le fun pixel _ _ => Nat.le_of_lt_succ (channel pixel).toNat_lt)
    (Nat.mul_le_mul_left 255 (alphaSum_le samples))

/-- **One more sample** is added without overflow. -/
theorem add_sumsOf {samples : List Rgba} (hlength : samples.length < 16) (pixel : Rgba) :
    (sumsOf samples).add pixel = some (sumsOf (samples ++ [pixel])) := by
  have hsingle : ∀ channel : Rgba → UInt8,
      weighted alphaOf (fun pixel => (channel pixel).toNat) [pixel] =
        (channel pixel).toNat * pixel.alpha.toNat := fun channel => Nat.add_zero _
  have hproduct : ∀ channel : Rgba → UInt8, (channel pixel).toNat * pixel.alpha.toNat ≤ 255 * 255 :=
    fun channel => Nat.mul_le_mul (Nat.le_of_lt_succ (channel pixel).toNat_lt)
      (Nat.le_of_lt_succ pixel.alpha.toNat_lt)
  have halpha := alphaSum_le samples
  have halpha' := pixel.alpha.toNat_lt
  have hred := colourSum_le Rgba.red samples
  have hgreen := colourSum_le Rgba.green samples
  have hblue := colourSum_le Rgba.blue samples
  have hred' := hproduct Rgba.red
  have hgreen' := hproduct Rgba.green
  have hblue' := hproduct Rgba.blue
  have hweight : weight alphaOf [pixel] = pixel.alpha.toNat := Nat.add_zero _
  simp only [CheckedSums.add, sumsOf, weighted_append, weight_append, hweight, hsingle,
    Option.bind_eq_bind]
  rw [u32_of_lt (by omega), Option.bind_some, u32_of_lt (by omega), Option.bind_some,
    u32_of_lt (by omega), Option.bind_some, u32_of_lt (by omega), Option.bind_some,
    u32_of_lt (by omega), Option.bind_some, u32_of_lt (by omega), Option.bind_some,
    u32_of_lt (by omega), Option.bind_some]

theorem divRoundChecked_ok {a b : Nat} (hb : 0 < b) (h : a + b / 2 < 2 ^ 32) :
    divRoundChecked a b = some (roundDiv a b) := by
  simp only [divRoundChecked, u32_of_lt h, quotient_of_pos hb, Option.bind_eq_bind,
    Option.bind_some, roundDiv]

/-- **The average of the sums** is the rounded mean. -/
theorem average_sumsOf (samples : List Rgba) (hpos : 0 < samples.length)
    (hlength : samples.length ≤ 16) :
    (sumsOf samples).average samples.length = some (averageOf samples) := by
  have halpha := alphaSum_le samples
  have hmean : ∀ channel : Rgba → UInt8, 0 < weight alphaOf samples →
      roundDiv (weighted alphaOf (fun pixel => (channel pixel).toNat) samples)
        (weight alphaOf samples) ≤ 255 := fun channel hweight =>
    mean_le hweight fun pixel _ _ => Nat.le_of_lt_succ (channel pixel).toNat_lt
  have hquotient : ∀ channel : Rgba → UInt8, 0 < weight alphaOf samples →
      divRoundChecked (weighted alphaOf (fun pixel => (channel pixel).toNat) samples)
        (weight alphaOf samples) =
      some (roundDiv (weighted alphaOf (fun pixel => (channel pixel).toNat) samples)
        (weight alphaOf samples)) := fun channel hweight => by
    have hcolour := colourSum_le channel samples
    exact divRoundChecked_ok hweight (by omega)
  have halpha' : roundDiv (weight alphaOf samples) samples.length ≤ 255 :=
    roundDiv_le hpos halpha
  have halphaMean : divRoundChecked (sumsOf samples).alpha samples.length =
      some (roundDiv (weight alphaOf samples) samples.length) :=
    divRoundChecked_ok hpos (show weight alphaOf samples + samples.length / 2 < 2 ^ 32 by omega)
  simp only [CheckedSums.average, halphaMean, Option.bind_eq_bind, Option.bind_some]
  by_cases hzero : (sumsOf samples).alpha = 0
  · have hweight : weight alphaOf samples = 0 := hzero
    rw [if_pos hzero, averageOf, if_pos hweight]
  · have hweight : 0 < weight alphaOf samples := Nat.pos_of_ne_zero hzero
    rw [if_neg hzero, averageOf, if_neg (Nat.ne_of_gt hweight)]
    simp only [sumsOf]
    rw [hquotient Rgba.red hweight, Option.bind_some, hquotient Rgba.green hweight,
      Option.bind_some, hquotient Rgba.blue hweight, Option.bind_some]
    simp only [cappedNat, meanOf, Nat.min_eq_left (hmean Rgba.red hweight),
      Nat.min_eq_left (hmean Rgba.green hweight), Nat.min_eq_left (hmean Rgba.blue hweight),
      Nat.min_eq_left halpha']

/-- **The samples are read in bounds** and summed. -/
theorem sumSamples_ok {source : RgbaImage} {factor width height x y : Nat} (hfactor : factor ≤ 4)
    (hwidth : source.width.toNat = width * factor)
    (hheight : source.height.toNat = height * factor) (hx : x < width) (hy : y < height) :
    sumSamples source factor x y = some (sumsOf (block source factor x y)) := by
  have hw := source.width.toNat_lt
  have hh := source.height.toNat_lt
  have hright : (x + 1) * factor ≤ width * factor := Nat.mul_le_mul_right factor hx
  have hbottom : (y + 1) * factor ≤ height * factor := Nat.mul_le_mul_right factor hy
  rw [Nat.succ_mul] at hright hbottom
  -- the samples of the rows so far, and of the row that is read
  let row (sampleY n : Nat) : List Rgba := (List.range n).map fun sampleX =>
    source.pixelAt (x * factor + sampleX) (y * factor + sampleY)
  let rows (n : Nat) : List Rgba := (List.range n).flatMap fun sampleY => row sampleY factor
  have hrow : ∀ sampleY n, (row sampleY n).length = n := fun sampleY n => by
    simp only [row, List.length_map, List.length_range]
  have hrows : ∀ n, (rows n).length = n * factor := fun n => by
    simp [rows, row, List.length_flatMap]
  have hrowSucc : ∀ sampleY n, row sampleY (n + 1) = row sampleY n ++
      [source.pixelAt (x * factor + n) (y * factor + sampleY)] := fun sampleY n => by
    simp only [row, List.range_succ, List.map_append, List.map_cons, List.map_nil]
  have hrowsSucc : ∀ n, rows (n + 1) = rows n ++ row n factor := fun n => by
    simp only [rows, List.range_succ, List.flatMap_append, List.flatMap_cons, List.flatMap_nil,
      List.append_nil]
  obtain ⟨sums, hsums, rfl⟩ := times_ok (n := factor) (s := (⟨0, 0, 0, 0⟩ : CheckedSums))
    (f := fun sampleY => times factor fun sampleX sums => do
      let sourceX ← u32 ((← u32 (x * factor)) + sampleX)
      let sourceY ← u32 ((← u32 (y * factor)) + sampleY)
      let pixel ← source.getPixel (UInt32.ofNat sourceX) (UInt32.ofNat sourceY)
      sums.add pixel)
    (I := fun n sums => sums = sumsOf (rows n))
    (fun sampleY hsampleY s hs => by
      refine times_ok (I := fun n sums => sums = sumsOf (rows sampleY ++ row sampleY n))
        (fun sampleX hsampleX t ht => ?_) ?_ |>.imp fun s' hs' => ⟨hs'.1, ?_⟩
      · subst ht
        rw [u32_of_lt (by omega), u32_of_lt (n := y * factor) (by omega)]
        simp only [Option.bind_eq_bind, Option.bind_some]
        rw [u32_of_lt (by omega), Option.bind_some, u32_of_lt (by omega), Option.bind_some,
          getPixel_of_lt (by omega) (by omega), Option.bind_some]
        have hlength : (rows sampleY ++ row sampleY sampleX).length < 16 := by
          rw [List.length_append, hrows, hrow]
          have hle : sampleY * factor ≤ 3 * factor := Nat.mul_le_mul_right factor (by omega)
          omega
        refine ⟨_, add_sumsOf hlength _, ?_⟩
        rw [hrowSucc, List.append_assoc]
      · rw [hs]
        simp only [row, List.range_zero, List.map_nil, List.append_nil]
      · rw [hs'.2, hrowsSucc])
    rfl
  rw [sumSamples, hsums]
  simp only [block, places, rows, row, List.map_flatMap, List.map_map, Function.comp_def]

/-- **The checked loops succeed**, and every pixel is the average of its block. -/
theorem downsampleChecked_ok (source output : RgbaImage)
    {outputWidth outputHeight factor : UInt32} (hpos : 0 < factor.toNat)
    (hfactor : factor.toNat ≤ 4)
    (hwidth : source.width.toNat = outputWidth.toNat * factor.toNat)
    (hheight : source.height.toNat = outputHeight.toNat * factor.toNat)
    (houtput : output.width = outputWidth ∧ output.height = outputHeight) :
    ∃ output', downsampleChecked source outputWidth outputHeight factor output = some output' ∧
      SameSize output output' ∧
      ∀ x y, x < output.width.toNat → y < output.height.toNat →
        output'.pixelAt x y = averageOf (block source factor.toNat x y) := by
  obtain ⟨hwidth', hheight'⟩ := houtput
  have hsquare : factor.toNat * factor.toNat ≤ 4 * 4 := Nat.mul_le_mul hfactor hfactor
  have hsamples : 0 < factor.toNat * factor.toNat := Nat.mul_pos hpos hpos
  obtain ⟨output', hpaint, hsize, hpixels⟩ := paint_ok
    (fun x y => averageOf (block source factor.toNat x y))
    (fun y x output => do
      let sums ← sumSamples source factor.toNat x y
      let pixel ← sums.average (factor.toNat * factor.toNat)
      output.putPixel (UInt32.ofNat x) (UInt32.ofNat y) pixel)
    (Nat.le_of_eq (congrArg UInt32.toNat hwidth'.symm))
    (Nat.le_of_eq (congrArg UInt32.toNat hheight'.symm))
    (fun y hy x hx image => by
      have hlength := block_length source factor.toNat x y
      have haverage := average_sumsOf (block source factor.toNat x y) (by omega) (by omega)
      rw [hlength] at haverage
      simp only [sumSamples_ok hfactor hwidth hheight hx hy, haverage, Option.bind_eq_bind,
        Option.bind_some])
  refine ⟨output', ?_, hsize, fun x y hx hy => ?_⟩
  · simp only [downsampleChecked, u32_of_lt (n := factor.toNat * factor.toNat) (by omega),
      Option.bind_eq_bind, Option.bind_some]
    exact hpaint
  · rw [hpixels x y hx, if_pos ⟨by rwa [hwidth'] at hx, by rwa [hheight'] at hy⟩]

/-! ## The wrapping loops -/

/-- The sums as machine integers. -/
def CheckedSums.wrap (sums : CheckedSums) : Sums :=
  ⟨UInt32.ofNat sums.alpha, UInt32.ofNat sums.red, UInt32.ofNat sums.green,
    UInt32.ofNat sums.blue⟩

theorem toUInt32_eq (value : UInt8) : value.toUInt32 = UInt32.ofNat value.toNat := by
  apply UInt32.toNat_inj.mp
  rw [UInt8.toNat_toUInt32, toNat_ofNat (Nat.lt_trans value.toNat_lt (by decide))]

theorem add_wrap {sums sums' : CheckedSums} {pixel : Rgba} (h : sums.add pixel = some sums') :
    sums.wrap.add pixel = sums'.wrap := by
  obtain ⟨alphaSum, halpha, h⟩ := Option.bind_eq_some_iff.mp h
  obtain ⟨red, hred, h⟩ := Option.bind_eq_some_iff.mp h
  obtain ⟨redSum, hredSum, h⟩ := Option.bind_eq_some_iff.mp h
  obtain ⟨green, hgreen, h⟩ := Option.bind_eq_some_iff.mp h
  obtain ⟨greenSum, hgreenSum, h⟩ := Option.bind_eq_some_iff.mp h
  obtain ⟨blue, hblue, h⟩ := Option.bind_eq_some_iff.mp h
  obtain ⟨blueSum, hblueSum, h⟩ := Option.bind_eq_some_iff.mp h
  obtain ⟨rfl, -⟩ := u32_eq_some halpha
  obtain ⟨rfl, -⟩ := u32_eq_some hred
  obtain ⟨rfl, -⟩ := u32_eq_some hredSum
  obtain ⟨rfl, -⟩ := u32_eq_some hgreen
  obtain ⟨rfl, -⟩ := u32_eq_some hgreenSum
  obtain ⟨rfl, -⟩ := u32_eq_some hblue
  obtain ⟨rfl, -⟩ := u32_eq_some hblueSum
  cases h
  simp only [CheckedSums.wrap, Sums.add, toUInt32_eq, UInt32.ofNat_add, UInt32.ofNat_mul]

theorem divRound_wrap {a b q : Nat} (hb : b < 2 ^ 32) (h : divRoundChecked a b = some q) :
    divRound (UInt32.ofNat a) (UInt32.ofNat b) = UInt32.ofNat q ∧ q < 2 ^ 32 := by
  obtain ⟨sum, hsum, h⟩ := Option.bind_eq_some_iff.mp h
  obtain ⟨rfl, hlt⟩ := u32_eq_some hsum
  unfold quotient at h
  split at h
  · cases h
  · cases h
    have hq : (a + b / 2) / b < 2 ^ 32 := Nat.lt_of_le_of_lt (Nat.div_le_self _ _) hlt
    refine ⟨UInt32.toNat_inj.mp ?_, hq⟩
    have htwo : (2 : UInt32).toNat = 2 := rfl
    rw [divRound, UInt32.toNat_div, UInt32.toNat_add, UInt32.toNat_div, htwo,
      toNat_ofNat (by omega), toNat_ofNat hb, toNat_ofNat hq, Nat.mod_eq_of_lt hlt]

theorem lt_of_divRound {a b q : Nat} (h : divRoundChecked a b = some q) : a < 2 ^ 32 := by
  obtain ⟨sum, hsum, -⟩ := Option.bind_eq_some_iff.mp h
  exact Nat.lt_of_le_of_lt (Nat.le_add_right a (b / 2)) (u32_eq_some hsum).2

theorem capped_wrap {q : Nat} (hq : q < 2 ^ 32) : capped (UInt32.ofNat q) = cappedNat q := by
  apply UInt8.toNat_inj.mp
  have hmax : (255 : UInt32).toNat = 255 := rfl
  have hmin : (min (UInt32.ofNat q) 255).toNat = min q 255 := by
    rw [UInt32.toNat_min, toNat_ofNat hq, hmax]
  rw [capped, cappedNat, UInt32.toNat_toUInt8, hmin]
  exact UInt8.toNat_ofNat'.symm

theorem average_wrap {sums : CheckedSums} {samples : Nat} {pixel : Rgba}
    (hsamples : samples < 2 ^ 32) (h : sums.average samples = some pixel) :
    sums.wrap.average (UInt32.ofNat samples) = pixel := by
  obtain ⟨alpha, hmean, h⟩ := Option.bind_eq_some_iff.mp h
  obtain ⟨hmean', hlt⟩ := divRound_wrap hsamples hmean
  have halpha := lt_of_divRound hmean
  by_cases hzero : sums.alpha = 0
  · rw [if_pos hzero] at h
    cases h
    have hwrap : sums.wrap.alpha = 0 := by
      rw [CheckedSums.wrap, hzero]
      rfl
    rw [Sums.average, if_pos hwrap]
  · rw [if_neg hzero] at h
    have hwrap : ¬sums.wrap.alpha = 0 := by
      intro hwrap
      have hnat := congrArg UInt32.toNat hwrap
      rw [CheckedSums.wrap, toNat_ofNat halpha] at hnat
      exact hzero hnat
    obtain ⟨red, hred, h⟩ := Option.bind_eq_some_iff.mp h
    obtain ⟨green, hgreen, h⟩ := Option.bind_eq_some_iff.mp h
    obtain ⟨blue, hblue, h⟩ := Option.bind_eq_some_iff.mp h
    cases h
    obtain ⟨hred', hredlt⟩ := divRound_wrap halpha hred
    obtain ⟨hgreen', hgreenlt⟩ := divRound_wrap halpha hgreen
    obtain ⟨hblue', hbluelt⟩ := divRound_wrap halpha hblue
    rw [Sums.average, if_neg hwrap]
    simp only [CheckedSums.wrap, hred', hgreen', hblue', hmean', capped_wrap hlt,
      capped_wrap hredlt, capped_wrap hgreenlt, capped_wrap hbluelt]

/-- **Where the checked loops succeed, the wrapping loops give the same.** -/
theorem downsample_of_checked {source output output' : RgbaImage}
    {outputWidth outputHeight factor : UInt32}
    (h : downsampleChecked source outputWidth outputHeight factor output = some output') :
    downsamplePremultipliedInto source outputWidth outputHeight factor output = some output' := by
  obtain ⟨samples, hsamples, h⟩ := Option.bind_eq_some_iff.mp h
  obtain ⟨rfl, hsquare⟩ := u32_eq_some hsamples
  have hfactor : UInt32.ofNat (factor.toNat * factor.toNat) = factor * factor := by
    rw [UInt32.ofNat_mul, UInt32.ofNat_toNat]
  unfold downsamplePremultipliedInto
  simp only [forRange_zero]
  refine times_map (g := id) (fun y _ s s' hs => ?_) h
  refine times_map (g := id) (fun x _ t t' ht => ?_) hs
  obtain ⟨sums, hsums, ht⟩ := Option.bind_eq_some_iff.mp ht
  obtain ⟨pixel, hpixel, hput⟩ := Option.bind_eq_some_iff.mp ht
  have hwrap := times_map (g := CheckedSums.wrap) (k := fun sampleY =>
    times factor.toNat fun sampleX sums => (do
      let pixel ← source.getPixel (UInt32.ofNat x * factor + UInt32.ofNat sampleX)
        (UInt32.ofNat y * factor + UInt32.ofNat sampleY)
      pure (sums.add pixel)))
    (fun sampleY _ s s' hs => times_map (g := CheckedSums.wrap) (fun sampleX _ r r' hr => by
      obtain ⟨left, hleft, hr⟩ := Option.bind_eq_some_iff.mp hr
      obtain ⟨sourceX, hsourceX, hr⟩ := Option.bind_eq_some_iff.mp hr
      obtain ⟨top, htop, hr⟩ := Option.bind_eq_some_iff.mp hr
      obtain ⟨sourceY, hsourceY, hr⟩ := Option.bind_eq_some_iff.mp hr
      obtain ⟨color, hcolor, hadd⟩ := Option.bind_eq_some_iff.mp hr
      obtain ⟨rfl, -⟩ := u32_eq_some hleft
      obtain ⟨rfl, -⟩ := u32_eq_some hsourceX
      obtain ⟨rfl, -⟩ := u32_eq_some htop
      obtain ⟨rfl, -⟩ := u32_eq_some hsourceY
      simp only [UInt32.ofNat_add, UInt32.ofNat_mul, UInt32.ofNat_toNat] at hcolor
      rw [hcolor]
      exact congrArg some (add_wrap hadd)) hs) hsums
  have haverage := average_wrap hsquare hpixel
  rw [hfactor] at haverage
  refine Option.bind_eq_some_iff.mpr ⟨sums.wrap, hwrap, ?_⟩
  rw [haverage]
  exact hput

/-! ## What an average is -/

/-- The alpha is the rounded mean of the alphas; a visible pixel has each channel between those
of visible samples; equal visible samples are kept. -/
structure BoundedAverage (samples : List Rgba) (pixel : Rgba) : Prop where
  alpha : 2 * (samples.length * pixel.alpha.toNat) ≤
      2 * (samples.map fun sample => sample.alpha.toNat).sum + samples.length ∧
    2 * (samples.map fun sample => sample.alpha.toNat).sum <
      2 * (samples.length * pixel.alpha.toNat) + samples.length
  colours : pixel.alpha ≠ 0 → ∀ channel ∈ [Rgba.red, Rgba.green, Rgba.blue],
    (∃ sample ∈ samples, sample.alpha ≠ 0 ∧ channel sample ≤ channel pixel) ∧
      ∃ sample ∈ samples, sample.alpha ≠ 0 ∧ channel pixel ≤ channel sample
  uniform : ∀ color : Rgba, color.alpha ≠ 0 → (∀ sample ∈ samples, sample = color) →
    pixel = color

theorem toNat_of_le {n : Nat} (h : n ≤ 255) : (UInt8.ofNat n).toNat = n := by
  rw [UInt8.toNat_ofNat']
  exact Nat.mod_eq_of_lt (Nat.lt_succ_of_le h)

section Average

variable {samples : List Rgba}

theorem alphaOf_ne_zero {sample : Rgba} : alphaOf sample ≠ 0 ↔ sample.alpha ≠ 0 :=
  not_congr (UInt8.toNat_inj (b := 0))

/-- The alpha of an average, also where nothing is visible. -/
theorem averageOf_alpha (hpos : 0 < samples.length) :
    (averageOf samples).alpha.toNat = roundDiv (weight alphaOf samples) samples.length := by
  have hle : roundDiv (weight alphaOf samples) samples.length ≤ 255 :=
    roundDiv_le hpos (alphaSum_le samples)
  unfold averageOf
  split
  · next hzero =>
      rw [hzero] at hle ⊢
      have hnone : roundDiv 0 samples.length ≤ 0 := roundDiv_le hpos (Nat.zero_le _)
      exact (Nat.le_zero.mp hnone).symm
  · exact toNat_of_le hle

theorem meanOf_toNat (channel : Rgba → UInt8) (hweight : 0 < weight alphaOf samples) :
    (meanOf channel samples).toNat =
      roundDiv (weighted alphaOf (fun pixel => (channel pixel).toNat) samples)
        (weight alphaOf samples) :=
  toNat_of_le (mean_le hweight fun pixel _ _ => Nat.le_of_lt_succ (channel pixel).toNat_lt)

/-- **A mean has visible samples on both sides.** -/
theorem meanOf_between (channel : Rgba → UInt8) (hweight : 0 < weight alphaOf samples) :
    (∃ sample ∈ samples, sample.alpha ≠ 0 ∧ channel sample ≤ meanOf channel samples) ∧
      ∃ sample ∈ samples, sample.alpha ≠ 0 ∧ meanOf channel samples ≤ channel sample := by
  have hmean := meanOf_toNat channel hweight
  constructor
  · by_contra hnone
    push Not at hnone
    have hlarge := le_mean (v := fun pixel => (channel pixel).toNat)
      (n := (meanOf channel samples).toNat + 1) hweight fun sample hsample hvisible =>
        UInt8.lt_iff_toNat_lt.mp (UInt8.not_le.mp
          (hnone sample hsample (alphaOf_ne_zero.mp hvisible)))
    omega
  · by_contra hnone
    push Not at hnone
    have hsmall : roundDiv (weighted alphaOf (fun pixel => (channel pixel).toNat) samples)
        (weight alphaOf samples) ≤ (meanOf channel samples).toNat - 1 :=
      mean_le hweight fun sample hsample hvisible => Nat.le_sub_one_of_lt
        (UInt8.lt_iff_toNat_lt.mp (UInt8.not_le.mp
          (hnone sample hsample (alphaOf_ne_zero.mp hvisible))))
    -- a mean of 0 is not above any sample
    obtain ⟨sample, hsample, hvisible⟩ : ∃ sample ∈ samples, alphaOf sample ≠ 0 := by
      by_contra hzero
      push Not at hzero
      have hle : weight alphaOf samples ≤ 0 * samples.length :=
        weight_le fun sample hsample => Nat.le_zero.mpr (hzero sample hsample)
      omega
    have hlt := UInt8.lt_iff_toNat_lt.mp (UInt8.not_le.mp
          (hnone sample hsample (alphaOf_ne_zero.mp hvisible)))
    omega

/-- **Equal visible samples** are kept. -/
theorem averageOf_uniform {color : Rgba} (hpos : 0 < samples.length) (hcolor : color.alpha ≠ 0)
    (h : ∀ sample ∈ samples, sample = color) : averageOf samples = color := by
  have hall : samples = List.replicate samples.length color := List.eq_replicate_iff.mpr ⟨rfl, h⟩
  have halpha : 0 < color.alpha.toNat := Nat.pos_of_ne_zero (alphaOf_ne_zero.mpr hcolor)
  have hweight : weight alphaOf samples = color.alpha.toNat * samples.length := by
    rw [hall, weight, List.map_replicate, List.sum_replicate, List.length_replicate,
      smul_eq_mul, Nat.mul_comm]
    rfl
  have hwpos : 0 < weight alphaOf samples := by
    rw [hweight]
    exact Nat.mul_pos halpha hpos
  have hmean : ∀ channel : Rgba → UInt8, meanOf channel samples = channel color := by
    intro channel
    obtain ⟨⟨low, hlow, -, hle⟩, high, hhigh, -, hge⟩ := meanOf_between channel hwpos
    rw [h low hlow] at hle
    rw [h high hhigh] at hge
    exact UInt8.le_antisymm hge hle
  have hcapped : UInt8.ofNat (roundDiv (weight alphaOf samples) samples.length) = color.alpha := by
    rw [hweight, roundDiv_mul _ hpos, UInt8.ofNat_toNat]
  rw [averageOf, if_neg (Nat.ne_of_gt hwpos), hmean, hmean, hmean, hcapped]

/-- **The average of a block is bounded.** -/
theorem averageOf_bounded (hpos : 0 < samples.length) :
    BoundedAverage samples (averageOf samples) where
  alpha := by
    rw [averageOf_alpha hpos]
    exact roundDiv_nearest (weight alphaOf samples) hpos
  colours := by
    intro hvisible channel hchannel
    have hweight : 0 < weight alphaOf samples := by
      apply Nat.pos_of_ne_zero
      intro hzero
      rw [averageOf, if_pos hzero] at hvisible
      exact hvisible rfl
    have hmean : channel (averageOf samples) = meanOf channel samples := by
      rw [averageOf, if_neg (Nat.ne_of_gt hweight)]
      simp only [List.mem_cons, List.not_mem_nil, or_false] at hchannel
      rcases hchannel with rfl | rfl | rfl <;> rfl
    rw [hmean]
    exact meanOf_between channel hweight
  uniform := fun _ hcolor h => averageOf_uniform hpos hcolor h

end Average

/-! ## Transparent samples -/

/-- Two pixels that are equal or both invisible. -/
def SameVisible (pixel pixel' : Rgba) : Prop :=
  pixel' = pixel ∨ (pixel.alpha = 0 ∧ pixel'.alpha = 0)

/-- Two images that differ in the colours of transparent pixels only. -/
def SameShown (image image' : RgbaImage) : Prop :=
  SameSize image image' ∧ ∀ x y, x < image.width.toNat → y < image.height.toNat →
    SameVisible (image.pixelAt x y) (image'.pixelAt x y)

/-- **The colours of transparent samples do not count.** -/
theorem averageOf_congr {ι : Type} {l : List ι} {f f' : ι → Rgba}
    (h : ∀ i ∈ l, SameVisible (f i) (f' i)) : averageOf (l.map f') = averageOf (l.map f) := by
  have halpha : weight alphaOf (l.map f') = weight alphaOf (l.map f) := by
    simp only [weight, List.map_map]
    congr 1
    apply List.map_congr_left
    intro i hi
    rcases h i hi with heq | ⟨hzero, hzero'⟩
    · exact congrArg alphaOf heq
    · simp only [Function.comp_apply, alphaOf, hzero, hzero']
  have hsum : ∀ channel : Rgba → UInt8,
      weighted alphaOf (fun pixel => (channel pixel).toNat) (l.map f') =
        weighted alphaOf (fun pixel => (channel pixel).toNat) (l.map f) := by
    intro channel
    simp only [weighted, List.map_map]
    congr 1
    apply List.map_congr_left
    intro i hi
    rcases h i hi with heq | ⟨hzero, hzero'⟩
    · simp only [Function.comp_apply, heq]
    · simp only [Function.comp_apply, alphaOf, hzero, hzero']
      rfl
  simp only [averageOf, meanOf, halpha, hsum, List.length_map]

theorem places_inside {factor width height x y : Nat} (hx : x < width) (hy : y < height) :
    ∀ place ∈ places factor x y, place.1 < width * factor ∧ place.2 < height * factor := by
  intro place hplace
  simp only [places, List.mem_flatMap, List.mem_map, List.mem_range] at hplace
  obtain ⟨sampleY, hsampleY, sampleX, hsampleX, rfl⟩ := hplace
  have hright : (x + 1) * factor ≤ width * factor := Nat.mul_le_mul_right factor hx
  have hbottom : (y + 1) * factor ≤ height * factor := Nat.mul_le_mul_right factor hy
  rw [Nat.succ_mul] at hright hbottom
  dsimp only
  omega

/-- **Downsampling is a bounded average.**  Nothing overflows, the reads and writes are in
bounds, every pixel of the output is written and is a bounded average of its block, the
wrapping loops give the same, and neither the colours of transparent samples nor the former
contents of the output count. -/
theorem downsample_bounded (source output : RgbaImage)
    {outputWidth outputHeight factor : UInt32} (hpos : 0 < factor.toNat)
    (hfactor : factor.toNat ≤ 4)
    (hwidth : source.width.toNat = outputWidth.toNat * factor.toNat)
    (hheight : source.height.toNat = outputHeight.toNat * factor.toNat)
    (houtput : output.width = outputWidth ∧ output.height = outputHeight) :
    ∃ output', downsampleChecked source outputWidth outputHeight factor output = some output' ∧
      downsamplePremultipliedInto source outputWidth outputHeight factor output = some output' ∧
      SameSize output output' ∧
      (∀ x y, x < output.width.toNat → y < output.height.toNat →
        BoundedAverage (block source factor.toNat x y) (output'.pixelAt x y)) ∧
      ∀ source₂ output₂, SameShown source source₂ → SameSize output output₂ →
        downsampleChecked source₂ outputWidth outputHeight factor output₂ = some output' := by
  obtain ⟨output', hrun, hsize, hpixels⟩ :=
    downsampleChecked_ok source output hpos hfactor hwidth hheight houtput
  refine ⟨output', hrun, downsample_of_checked hrun, hsize, fun x y hx hy => ?_, ?_⟩
  · have hlength : 0 < (block source factor.toNat x y).length := by
      rw [block_length]
      exact Nat.mul_pos hpos hpos
    rw [hpixels x y hx hy]
    exact averageOf_bounded hlength
  · rintro source₂ output₂ ⟨hsource, hshown⟩ houtput₂
    obtain ⟨output₂', hrun₂, hsize₂, hpixels₂⟩ := downsampleChecked_ok source₂ output₂
      hpos hfactor (by rw [hsource.1, hwidth]) (by rw [hsource.2, hheight])
      ⟨houtput₂.1.trans houtput.1, houtput₂.2.trans houtput.2⟩
    have hsame : output₂' = output' := by
      refine ext_pixelAt ⟨?_, ?_⟩ fun x y hx hy => ?_
      · rw [hsize₂.1, houtput₂.1, hsize.1]
      · rw [hsize₂.2, houtput₂.2, hsize.2]
      · rw [hsize.1] at hx
        rw [hsize.2] at hy
        rw [hpixels x y hx hy, hpixels₂ x y (by rwa [houtput₂.1]) (by rwa [houtput₂.2])]
        refine averageOf_congr fun place hplace => ?_
        rw [houtput.1] at hx
        rw [houtput.2] at hy
        obtain ⟨hplaceX, hplaceY⟩ := places_inside hx hy place hplace
        exact hshown _ _ (by rwa [hwidth]) (by rwa [hheight])
    rw [hrun₂, hsame]

/-- One opaque, one translucent and two transparent samples. -/
def fourSamples : RgbaImage where
  width := 2
  height := 2
  pixels := [⟨200, 0, 0, 255⟩, ⟨0, 255, 0, 0⟩, ⟨0, 0, 255, 0⟩, ⟨100, 40, 0, 51⟩]
  filled := rfl
  fits := by decide

theorem fourSamples_average :
    ∃ output', downsamplePremultipliedInto fourSamples 1 1 2
        ⟨1, 1, [transparent], rfl, by decide⟩ = some output' ∧
      BoundedAverage fourSamples.pixels (output'.pixelAt 0 0) := by
  obtain ⟨output', -, hrun, -, hpixels, -⟩ := downsample_bounded fourSamples
    ⟨1, 1, [transparent], rfl, by decide⟩ (show 0 < (2 : UInt32).toNat by decide) (by decide)
    rfl rfl ⟨rfl, rfl⟩
  exact ⟨output', hrun, hpixels 0 0 (by decide) (by decide)⟩

end AsterYggdrasil.Renderer.Skin3d
