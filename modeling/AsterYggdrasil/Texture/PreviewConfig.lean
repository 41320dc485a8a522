import AsterYggdrasil.Texture.PreviewBackgrounds

/-!
# The configuration of previews

`normalize_texture_preview_config_value` parses a value and prints it again.  The
names of engines and profiles and the backgrounds are this program's own; the
library behind the configuration reads and prints booleans and numbers.

A value that has been normalised stays as it is, under every key
(`stabilises_normalize`).
-/

namespace AsterYggdrasil.Textures

open External Text

/-! ## Normalising -/

/-- The parsers and printers of configuration values in the configuration
library.  `F32` are its finite numbers of single precision. -/
structure ConfigNormalizers where
  F32 : Type
  parseF32 : String → Option F32
  printF32 : F32 → String
  parseSingleStringEnumSelection {α : Type} (value key expected : String)
    (parse : String → Option α) : Except String α
  normalizeBoolConfigValue (key value : String) : Except AsterError String
  normalizePositiveU32ConfigValue (key value : String) : Except AsterError String
  normalizeBoundedU8ConfigValue (key value : String) (min max : Nat) : Except AsterError String
  normalizeFiniteF32ConfigValue (key value : String) : Except AsterError String

/-- `TexturePreviewEngine::parse_value`. -/
def TexturePreviewEngine.parseValue (value : String) : Option TexturePreviewEngine :=
  let name := toAsciiLowercase (trim value)
  if name = "skin-3d" ∨ name = "3d" then some .skin3d
  else if name = "skin-2d" ∨ name = "2d" then some .skin2d
  else none

/-- `TexturePreviewQualityProfile::as_str`. -/
def TexturePreviewQualityProfile.asStr : TexturePreviewQualityProfile → String
  | .fast => "fast"
  | .default => "default"
  | .quality => "quality"

/-- `TexturePreviewQualityProfile::parse_value`. -/
def TexturePreviewQualityProfile.parseValue (value : String) :
    Option TexturePreviewQualityProfile :=
  let name := toAsciiLowercase (trim value)
  if name = "fast" then some .fast
  else if name = "default" then some .default
  else if name = "quality" then some .quality
  else none

/-- What a called function returns, as the outcome of the caller. -/
def returned {α : Type} : Except AsterError α → Checked α
  | .ok a => .ok a
  | .error e => .error (.error e)

section Normalize

variable (libs : ConfigNormalizers)

/-- `parse_engine`. -/
def parseEngine (value : String) : Checked TexturePreviewEngine :=
  match libs.parseSingleStringEnumSelection value "texture_preview_engine" "skin-3d or skin-2d"
    TexturePreviewEngine.parseValue with
  | .ok engine => .ok engine
  | .error message => rejected message

/-- `parse_profile`. -/
def parseProfile (value : String) : Checked TexturePreviewQualityProfile :=
  match libs.parseSingleStringEnumSelection value "texture_preview_profile"
    "fast, default, or quality" TexturePreviewQualityProfile.parseValue with
  | .ok profile => .ok profile
  | .error message => rejected message

/-- `normalize_texture_preview_config_value`. -/
def normalizeTexturePreviewConfigValue (key value : String) : Checked String :=
  if key = "texture_preview_engine" then
    (parseEngine libs value).map TexturePreviewEngine.asStr
  else if key = "texture_preview_profile" then
    (parseProfile libs value).map TexturePreviewQualityProfile.asStr
  else if key = "texture_preview_background" then
    (parseBackground value).map TexturePreviewBackground.wireValue
  else if key = "texture_preview_show_outer_layer" then
    returned (libs.normalizeBoolConfigValue "texture_preview_show_outer_layer" value)
  else if key ∈ ["texture_preview_width", "texture_preview_height", "texture_preview_2d_padding",
      "texture_preview_2d_spacing"] then
    returned (libs.normalizePositiveU32ConfigValue "texture preview value" value)
  else if key = "texture_preview_3d_supersampling" then
    returned (libs.normalizeBoundedU8ConfigValue "texture_preview_3d_supersampling" value 1 4)
  else if key ∈ ["texture_preview_3d_scale", "texture_preview_3d_pitch",
      "texture_preview_3d_front_yaw", "texture_preview_3d_back_yaw", "texture_preview_3d_spacing",
      "texture_preview_3d_x_offset", "texture_preview_3d_y_offset",
      "texture_preview_3d_center_y"] then
    returned (libs.normalizeFiniteF32ConfigValue "texture preview value" value)
  else .ok value

end Normalize

/-- What is used of the library: a plain name selects what its parser makes of
it, booleans are printed as two words and numbers in decimal, and each reads what
it prints.  A finite number is printed as it was parsed, and parsing reads back what
printing wrote. -/
structure ConfigNormalizers.Lawful (libs : ConfigNormalizers) : Prop where
  select_name : ∀ {α : Type} {name key expected : String} {parse : String → Option α} {choice : α},
    name ∈ ["skin-3d", "skin-2d", "fast", "default", "quality"] → parse name = some choice →
      libs.parseSingleStringEnumSelection name key expected parse = .ok choice
  bool_word : ∀ {key value printed : String},
    libs.normalizeBoolConfigValue key value = .ok printed → printed = "true" ∨ printed = "false"
  bool_read : ∀ {key word : String}, word = "true" ∨ word = "false" →
    libs.normalizeBoolConfigValue key word = .ok word
  u32_decimal : ∀ {key value printed : String},
    libs.normalizePositiveU32ConfigValue key value = .ok printed →
      ∃ n : Nat, 0 < n ∧ n < 2 ^ 32 ∧ printed = toString n
  u32_read : ∀ {key : String} {n : Nat}, 0 < n → n < 2 ^ 32 →
    libs.normalizePositiveU32ConfigValue key (toString n) = .ok (toString n)
  u8_decimal : ∀ {key value printed : String} {min max : Nat},
    libs.normalizeBoundedU8ConfigValue key value min max = .ok printed →
      ∃ n : Nat, min ≤ n ∧ n ≤ max ∧ printed = toString n
  u8_read : ∀ {key : String} {n min max : Nat}, min ≤ n → n ≤ max → max < 256 →
    libs.normalizeBoundedU8ConfigValue key (toString n) min max = .ok (toString n)
  f32_printed : ∀ {key value printed : String},
    libs.normalizeFiniteF32ConfigValue key value = .ok printed →
      ∃ x, libs.parseF32 value = some x ∧ printed = libs.printF32 x
  f32_parsed : ∀ {key value : String} {x : libs.F32}, libs.parseF32 value = some x →
    libs.normalizeFiniteF32ConfigValue key value = .ok (libs.printF32 x)
  f32_roundtrip : ∀ x, libs.parseF32 (libs.printF32 x) = some x

/-- What it gives, it leaves alone. -/
def Stabilises (normalize : String → Checked String) : Prop :=
  ∀ value printed, normalize value = .ok printed → normalize printed = .ok printed

theorem Stabilises.twice {normalize : String → Checked String} (h : Stabilises normalize)
    (value : String) : (normalize value).bind normalize = normalize value := by
  cases hv : normalize value with
  | error e => rfl
  | ok printed => exact h value printed hv

theorem stabilises_of_read {α : Type} {parse : String → Checked α} {print : α → String}
    (h : ∀ a, parse (print a) = .ok a) : Stabilises fun value => (parse value).map print := by
  intro value printed hv
  cases ha : parse value with
  | error e =>
      simp only [ha] at hv
      cases hv
  | ok a =>
      simp only [ha] at hv
      cases hv
      simp only [h]
      rfl

theorem stabilises_returned {f : String → Except AsterError String}
    (h : ∀ value printed, f value = .ok printed → f printed = .ok printed) :
    Stabilises fun value => returned (f value) := by
  intro value printed hv
  cases hf : f value with
  | error e =>
      simp only [hf] at hv
      cases hv
  | ok printed' =>
      simp only [hf] at hv
      cases hv
      have hprinted := h value printed hf
      simp only [hprinted]
      rfl

section Lawful

variable {libs : ConfigNormalizers} (hlibs : libs.Lawful)

include hlibs

theorem parseEngine_asStr (engine : TexturePreviewEngine) :
    parseEngine libs engine.asStr = .ok engine := by
  have hname : engine.asStr ∈ ["skin-3d", "skin-2d", "fast", "default", "quality"] := by
    cases engine <;> decide
  have hparse : TexturePreviewEngine.parseValue engine.asStr = some engine := by
    cases engine <;> decide +kernel
  unfold parseEngine
  rw [hlibs.select_name hname hparse]

theorem parseProfile_asStr (profile : TexturePreviewQualityProfile) :
    parseProfile libs profile.asStr = .ok profile := by
  have hname : profile.asStr ∈ ["skin-3d", "skin-2d", "fast", "default", "quality"] := by
    cases profile <;> decide
  have hparse : TexturePreviewQualityProfile.parseValue profile.asStr = some profile := by
    cases profile <;> decide +kernel
  unfold parseProfile
  rw [hlibs.select_name hname hparse]

/-- **A normalised value stays as it is**, under every key. -/
theorem stabilises_normalize (key : String) :
    Stabilises (normalizeTexturePreviewConfigValue libs key) := by
  unfold normalizeTexturePreviewConfigValue
  split_ifs
  · exact stabilises_of_read (parseEngine_asStr hlibs)
  · exact stabilises_of_read (parseProfile_asStr hlibs)
  · exact stabilises_of_read parse_wireValue
  · exact stabilises_returned fun value printed h => hlibs.bool_read (hlibs.bool_word h)
  · refine stabilises_returned fun value printed h => ?_
    obtain ⟨n, hpos, hmax, rfl⟩ := hlibs.u32_decimal h
    exact hlibs.u32_read hpos hmax
  · refine stabilises_returned fun value printed h => ?_
    obtain ⟨n, hmin, hmax, rfl⟩ := hlibs.u8_decimal h
    exact hlibs.u8_read hmin hmax (by decide)
  · refine stabilises_returned fun value printed h => ?_
    obtain ⟨x, -, rfl⟩ := hlibs.f32_printed h
    exact hlibs.f32_parsed (hlibs.f32_roundtrip x)
  · intro value printed h
    cases h
    rfl

/-- **Printing and normalising are right, and a value is parsed exactly unless
two bytes end inside a character or a plus sign is read as part of a number.** -/
theorem background_exact_iff (value : String) :
    (ParsedExactly value ∧ (∀ bg, parseBackground (TexturePreviewBackground.wireValue bg) = .ok bg) ∧
      ∀ key value, (normalizeTexturePreviewConfigValue libs key value).bind
        (normalizeTexturePreviewConfigValue libs key) =
          normalizeTexturePreviewConfigValue libs key value) ↔
      ¬ Spoiled (trim value).toList := by
  rw [parsedExactly_iff]
  constructor
  · intro h
    exact h.1
  · intro h
    exact ⟨h, parse_wireValue, fun key value => (stabilises_normalize hlibs key).twice value⟩

end Lawful

/-! ## Colours that are none -/

/-- A number in decimal, within bounds. -/
def decimalWithin (key value : String) (min max : Nat) : Except AsterError String :=
  match value.toNat? with
  | some n =>
      if min ≤ n ∧ n ≤ max then .ok (toString n)
      else .error (.validation none (key ++ " is out of range"))
  | none => .error (.validation none (key ++ " must be a number"))

/-- Plain names, two words, and decimal numbers. -/
def plainNormalizers : ConfigNormalizers where
  F32 := Fin (2 ^ 24 + 1)
  parseF32 value := value.toNat?.bind fun n => if h : n < 2 ^ 24 + 1 then some ⟨n, h⟩ else none
  printF32 x := toString x.val
  parseSingleStringEnumSelection value key expected parse :=
    match parse value with
    | some choice => .ok choice
    | none => .error (key ++ " must be " ++ expected)
  normalizeBoolConfigValue key value :=
    if value = "true" ∨ value = "false" then .ok value
    else .error (.validation none (key ++ " must be true or false"))
  normalizePositiveU32ConfigValue key value := decimalWithin key value 1 (2 ^ 32 - 1)
  normalizeBoundedU8ConfigValue key value min max := decimalWithin key value min max
  normalizeFiniteF32ConfigValue key value := decimalWithin key value 0 (2 ^ 24)

theorem decimalWithin_ok {key value printed : String} {min max : Nat}
    (h : decimalWithin key value min max = .ok printed) :
    ∃ n : Nat, min ≤ n ∧ n ≤ max ∧ value.toNat? = some n ∧ printed = toString n := by
  unfold decimalWithin at h
  split at h
  · next n hread =>
    split_ifs at h with hbounds
    cases h
    exact ⟨n, hbounds.1, hbounds.2, hread, rfl⟩
  · cases h

/-- A number within the bounds is printed again. -/
theorem decimalWithin_read (key : String) {value : String} {n min max : Nat}
    (hread : value.toNat? = some n) (hmin : min ≤ n) (hmax : n ≤ max) :
    decimalWithin key value min max = .ok (toString n) := by
  unfold decimalWithin
  rw [hread]
  exact if_pos ⟨hmin, hmax⟩

theorem decimalWithin_toString (key : String) {n min max : Nat} (hmin : min ≤ n) (hmax : n ≤ max) :
    decimalWithin key (toString n) min max = .ok (toString n) :=
  decimalWithin_read key (Nat.toNat?_repr n) hmin hmax

theorem plainNormalizers_parseF32 {value : String} {n : Nat} (hread : value.toNat? = some n)
    (hbound : n < 2 ^ 24 + 1) :
    plainNormalizers.parseF32 value = some (⟨n, hbound⟩ : Fin (2 ^ 24 + 1)) := by
  show (value.toNat?.bind fun n =>
    if h : n < 2 ^ 24 + 1 then some (⟨n, h⟩ : Fin (2 ^ 24 + 1)) else none) = _
  rw [hread, Option.bind_some, dif_pos hbound]

theorem plainNormalizers_lawful : plainNormalizers.Lawful where
  select_name := by
    intro α name key expected parse choice _ hparse
    simp only [plainNormalizers, hparse]
  bool_word := by
    intro key value printed h
    simp only [plainNormalizers] at h
    split_ifs at h with hword
    cases h
    exact hword
  bool_read := by
    intro key word hword
    exact if_pos hword
  u32_decimal := by
    intro key value printed h
    obtain ⟨n, hmin, hmax, -, rfl⟩ := decimalWithin_ok h
    exact ⟨n, by omega, by omega, rfl⟩
  u32_read := fun hpos hmax => decimalWithin_toString _ hpos (by omega)
  u8_decimal := by
    intro key value printed min max h
    obtain ⟨n, hmin, hmax, -, rfl⟩ := decimalWithin_ok h
    exact ⟨n, hmin, hmax, rfl⟩
  u8_read := fun hmin hmax _ => decimalWithin_toString _ hmin hmax
  f32_printed := by
    intro key value printed h
    obtain ⟨n, -, hmax, hread, rfl⟩ := decimalWithin_ok h
    have hbound : n < 2 ^ 24 + 1 := Nat.lt_succ_of_le hmax
    exact ⟨⟨n, hbound⟩, plainNormalizers_parseF32 hread hbound, rfl⟩
  f32_parsed := by
    intro key value x h
    obtain ⟨n, hread, hx⟩ := Option.bind_eq_some_iff.mp h
    split_ifs at hx with hbound
    cases hx
    exact decimalWithin_read key hread (Nat.zero_le n) (Nat.le_of_lt_succ hbound)
  f32_roundtrip := by
    intro x
    have hread : (toString x.val).toNat? = some x.val := Nat.toNat?_repr x.val
    exact plainNormalizers_parseF32 hread x.isLt

/-- Six digits are a colour. -/
theorem upper_case_exact :
    ParsedExactly "#AABBCC" ∧
      (∀ bg, parseBackground (TexturePreviewBackground.wireValue bg) = .ok bg) ∧
      ∀ key value, (normalizeTexturePreviewConfigValue plainNormalizers key value).bind
        (normalizeTexturePreviewConfigValue plainNormalizers key) =
          normalizeTexturePreviewConfigValue plainNormalizers key value := by
  refine (background_exact_iff plainNormalizers_lawful "#AABBCC").mpr ?_
  have htrim : (trim "#AABBCC").toList = ['#', 'A', 'A', 'B', 'B', 'C', 'C'] := by decide +kernel
  have hhex : ∀ c ∈ ['A', 'A', 'B', 'B', 'C', 'C'], IsHex c := by
    simp only [List.forall_mem_cons]
    exact ⟨by decide, by decide, by decide, by decide, by decide, by decide, fun c hc => by cases hc⟩
  have hlegible := (legible_iff 3 _ rfl).mp hhex
  rintro ⟨hex, htext, -, hbad⟩
  rw [htrim] at htext
  obtain ⟨-, rfl⟩ := List.cons.inj htext
  rcases hbad with hcut | ⟨-, hplus⟩
  · exact hcut.not_legible hlegible.1
  · exact hlegible.2 hplus

/-- Three plus signs are read as a colour, and two euro signs panic. -/
theorem signs_read_and_cut_panics :
    parseBackground "#+1+2+3" = .ok (.solid 1 2 3 255) ∧
      (∀ c, ¬ Denotes (trim "#+1+2+3") c) ∧ parseBackground "#€€" = .error .panic := by
  have htrim : (trim "#+1+2+3").toList = ['#', '+', '1', '+', '2', '+', '3'] := by decide +kernel
  refine ⟨by decide +kernel, fun c hc => ?_, by decide +kernel⟩
  have hplus := ((denotes_hash_iff htrim c).mp hc).2.1 '+' (by decide)
  exact absurd hplus (by decide)

end AsterYggdrasil.Textures
