import AsterYggdrasil.External.AutoProfiles
import AsterYggdrasil.Text.Slices

/-!
# The sanitised name of an external login

`sanitize_external_username` counts and cuts in bytes and pads in a loop.
`sanitizeByBytes` is that function with the slice that can fail; it never does,
and gives what the model of the provisioning uses (`sanitizeByBytes_eq`).

Neither trim can lose a letter or a digit.  A trimmed name therefore starts with
one, which is still there after the cut, so the second trim leaves a name as
well (`sanitized_name_legal`).
-/

namespace AsterYggdrasil.External

open Text

/-! ## The function, byte by byte -/

/-- `while name.len() < 3 { name.push('_') }`. -/
def padName (name : List Char) : List Char :=
  if byteLength name < 3 then padName (name ++ ['_']) else name
termination_by 3 - byteLength name
decreasing_by
  rw [byteLength_append]
  have hone : byteLength ['_'] = 1 := rfl
  omega

/-- The name after the cut; none if nothing, or no letter and no digit, is left. -/
def finishName (name : List Char) : Option String :=
  if name.isEmpty then none
  else
    let name := padName name
    if !name.any isAsciiAlphanumeric then none else some (String.ofList name)

/-- `sanitize_external_username` with its byte lengths and its byte slice; the
outer `none` is the panic of a slice that cuts a character. -/
def sanitizeByBytes (username : String) : Option (Option String) :=
  let sanitized := trimUnderscores (username.toList.filterMap sanitizeChar)
  let name :=
    if 16 < byteLength sanitized then (slice? sanitized 0 16).map trimUnderscores
    else some sanitized
  name.map finishName

/-! ## Bytes and characters -/

/-- The loop ends with underscores up to three bytes. -/
theorem padName_eq (name : List Char) :
    padName name = name ++ List.replicate (3 - byteLength name) '_' := by
  induction name using padName.induct with
  | case1 name hshort ih =>
      have hone : byteLength (name ++ ['_']) = byteLength name + 1 := by
        rw [byteLength_append]
        rfl
      have hmore : 3 - byteLength name = (3 - (byteLength name + 1)) + 1 := by omega
      rw [padName, if_pos hshort, ih, hone, hmore, List.replicate_succ, List.append_assoc]
      rfl
  | case2 name hlong =>
      have hnone : 3 - byteLength name = 0 := by omega
      rw [padName, if_neg hlong, hnone, List.replicate_zero, List.append_nil]

/-- A letter or a digit is kept, four other characters become underscores. -/
theorem sanitizeChar_eq_some {c d : Char} (h : sanitizeChar c = some d) :
    d = c ∧ isAsciiAlphanumeric c = true ∨ d = '_' ∧ isAsciiAlphanumeric c = false := by
  unfold sanitizeChar at h
  by_cases halnum : isAsciiAlphanumeric c = true
  · rw [if_pos halnum] at h
    cases h
    exact Or.inl ⟨rfl, halnum⟩
  · rw [if_neg halnum] at h
    split at h
    · cases h
      exact Or.inr ⟨rfl, Bool.eq_false_iff.mpr halnum⟩
    · cases h

/-- What is left of a name before it is trimmed. -/
theorem kept_chars (username : String) {c : Char}
    (hc : c ∈ username.toList.filterMap sanitizeChar) :
    isAsciiAlphanumeric c = true ∨ c = '_' := by
  obtain ⟨d, -, hd⟩ := List.mem_filterMap.mp hc
  rcases sanitizeChar_eq_some hd with ⟨rfl, halnum⟩ | ⟨rfl, -⟩
  · exact Or.inl halnum
  · exact Or.inr rfl

theorem sanitized_ascii (username : String) :
    Ascii (trimUnderscores (username.toList.filterMap sanitizeChar)) := by
  intro c hc
  rcases kept_chars username ((trimUnderscores_sublist _).subset hc) with halnum | rfl
  · have hrange := isAlphanum_toNat halnum
    omega
  · decide

/-- The name after the cut, in characters. -/
def cutName (sanitized : List Char) : List Char :=
  if 16 < sanitized.length then trimUnderscores (sanitized.take 16) else sanitized

theorem cutName_sublist (sanitized : List Char) : (cutName sanitized).Sublist sanitized := by
  unfold cutName
  by_cases hlong : 16 < sanitized.length
  · rw [if_pos hlong]
    exact (trimUnderscores_sublist _).trans (List.take_sublist ..)
  · rw [if_neg hlong]

theorem finishName_ascii {name : List Char} (h : Ascii name) :
    finishName name =
      if name.isEmpty then none
      else if (name ++ List.replicate (3 - name.length) '_').any isAsciiAlphanumeric then
        some (String.ofList (name ++ List.replicate (3 - name.length) '_'))
      else none := by
  unfold finishName
  dsimp only
  rw [padName_eq, h.byteLength]
  cases (name ++ List.replicate (3 - name.length) '_').any isAsciiAlphanumeric <;> rfl

theorem sanitizeExternalUsername_eq (username : String) :
    sanitizeExternalUsername username =
      finishName (cutName (trimUnderscores (username.toList.filterMap sanitizeChar))) := by
  have hascii : Ascii (cutName (trimUnderscores (username.toList.filterMap sanitizeChar))) :=
    (sanitized_ascii username).sublist (cutName_sublist _)
  rw [finishName_ascii hascii]
  rfl

/-- **The slice never cuts a character, and bytes are characters throughout.** -/
theorem sanitizeByBytes_eq (username : String) :
    sanitizeByBytes username = some (sanitizeExternalUsername username) := by
  have hascii := sanitized_ascii username
  rw [sanitizeExternalUsername_eq]
  unfold sanitizeByBytes
  dsimp only
  generalize trimUnderscores (username.toList.filterMap sanitizeChar) = sanitized at hascii
  unfold cutName
  rw [hascii.byteLength]
  by_cases hlong : 16 < sanitized.length
  · rw [if_pos hlong, if_pos hlong, slice?_ascii hascii (by omega) (by omega)]
    rfl
  · rw [if_neg hlong, if_neg hlong]
    rfl

/-! ## Letters and digits -/

/-- The letters and digits of a text. -/
def alphanumerics (cs : List Char) : List Char := cs.filter isAsciiAlphanumeric

theorem alphanumerics_dropWhile (cs : List Char) :
    alphanumerics (cs.dropWhile (· = '_')) = alphanumerics cs := by
  induction cs with
  | nil => rfl
  | cons c cs ih =>
      by_cases hc : c = '_'
      · subst hc
        rw [List.dropWhile_cons_of_pos (by decide), ih]
        rfl
      · rw [List.dropWhile_cons_of_neg (by simpa using hc)]

theorem alphanumerics_trim (cs : List Char) :
    alphanumerics (trimUnderscores cs) = alphanumerics cs := by
  unfold trimUnderscores
  calc alphanumerics (((cs.dropWhile (· = '_')).reverse.dropWhile (· = '_')).reverse)
      = (alphanumerics ((cs.dropWhile (· = '_')).reverse.dropWhile (· = '_'))).reverse :=
        List.filter_reverse ..
    _ = (alphanumerics (cs.dropWhile (· = '_')).reverse).reverse := by
        rw [alphanumerics_dropWhile]
    _ = alphanumerics (cs.dropWhile (· = '_')) := by
        unfold alphanumerics
        rw [List.filter_reverse, List.reverse_reverse]
    _ = alphanumerics cs := alphanumerics_dropWhile cs

theorem alphanumerics_kept (cs : List Char) :
    alphanumerics (cs.filterMap sanitizeChar) = alphanumerics cs := by
  induction cs with
  | nil => rfl
  | cons c cs ih =>
      cases hc : sanitizeChar c with
      | none =>
          have halnum : isAsciiAlphanumeric c = false := by
            by_contra h
            rw [Bool.not_eq_false] at h
            rw [sanitizeChar, if_pos h] at hc
            cases hc
          rw [List.filterMap_cons_none hc, ih, alphanumerics, alphanumerics,
            List.filter_cons_of_neg (by simp [halnum])]
      | some d =>
          rw [List.filterMap_cons_some hc]
          rcases sanitizeChar_eq_some hc with ⟨rfl, halnum⟩ | ⟨rfl, halnum⟩
          · rw [alphanumerics, List.filter_cons_of_pos halnum, alphanumerics,
              List.filter_cons_of_pos halnum]
            exact congrArg _ ih
          · rw [alphanumerics, List.filter_cons_of_neg (by decide), alphanumerics,
              List.filter_cons_of_neg (by simp [halnum])]
            exact ih

theorem alphanumerics_padded (cs : List Char) (n : Nat) :
    alphanumerics (cs ++ List.replicate n '_') = alphanumerics cs := by
  have hpad : (List.replicate n '_').filter isAsciiAlphanumeric = [] := by
    rw [List.filter_eq_nil_iff]
    intro c hc
    rw [List.eq_of_mem_replicate hc]
    decide
  unfold alphanumerics
  rw [List.filter_append, hpad, List.append_nil]

theorem any_isAsciiAlphanumeric (cs : List Char) :
    cs.any isAsciiAlphanumeric = true ↔ alphanumerics cs ≠ [] := by
  rw [List.any_eq_true, alphanumerics, Ne, List.filter_eq_nil_iff]
  push Not
  rfl

/-- A trimmed text starts with a letter or a digit. -/
theorem trimmed_head {cs : List Char} (hchars : ∀ c ∈ cs, isAsciiAlphanumeric c = true ∨ c = '_')
    {c : Char} {rest : List Char} (h : trimUnderscores cs = c :: rest) :
    isAsciiAlphanumeric c = true := by
  have hfront : trimUnderscores cs <+: cs.dropWhile (· = '_') := List.rdropWhile_prefix ..
  obtain ⟨tail, htail⟩ := hfront
  rw [h, List.cons_append] at htail
  have hmem : c ∈ cs := (List.dropWhile_sublist _).subset (by rw [← htail]; exact List.mem_cons_self ..)
  have hne : cs.dropWhile (fun d => decide (d = '_')) ≠ [] := by
    rw [← htail]
    exact List.cons_ne_nil c _
  have hhead := List.head_dropWhile_not (fun d => decide (d = '_')) hne
  simp only [← htail, List.head_cons] at hhead
  rcases hchars c hmem with halnum | rfl
  · exact halnum
  · cases hhead

/-- The first character of a trimmed text survives the cut, so the second trim
does not empty the name. -/
theorem alphanumerics_cutName {username : String}
    (h : trimUnderscores (username.toList.filterMap sanitizeChar) ≠ []) :
    alphanumerics (cutName (trimUnderscores (username.toList.filterMap sanitizeChar))) ≠ [] := by
  cases hsan : trimUnderscores (username.toList.filterMap sanitizeChar) with
  | nil => exact absurd hsan h
  | cons c rest =>
      have halnum := trimmed_head (fun d hd => kept_chars username hd) hsan
      have hfirst : ∀ tail, alphanumerics (c :: tail) ≠ [] := by
        intro tail
        rw [alphanumerics, List.filter_cons_of_pos halnum]
        exact List.cons_ne_nil c _
      unfold cutName
      by_cases hlong : 16 < (c :: rest).length
      · rw [if_pos hlong, alphanumerics_trim, List.take_succ_cons]
        exact hfirst _
      · rw [if_neg hlong]
        exact hfirst rest

/-- The cut keeps the first letters and digits. -/
theorem alphanumerics_cutName_prefix (sanitized : List Char) :
    alphanumerics (cutName sanitized) <+: alphanumerics sanitized := by
  unfold cutName
  by_cases hlong : 16 < sanitized.length
  · rw [if_pos hlong, alphanumerics_trim]
    exact (List.take_prefix 16 sanitized).filter _
  · rw [if_neg hlong]

/-- What the padding and the last check make of a name. -/
theorem finishName_of_alphanumeric {name : List Char} (h : alphanumerics name ≠ []) :
    finishName name = some (String.ofList (padName name)) := by
  have hne : name ≠ [] := by
    rintro rfl
    exact h rfl
  have hany : (padName name).any isAsciiAlphanumeric = true := by
    rw [any_isAsciiAlphanumeric, padName_eq, alphanumerics_padded]
    exact h
  unfold finishName
  rw [if_neg (by simpa using hne)]
  dsimp only
  rw [hany]
  rfl

/-- **Only a name without letters and digits has no sanitised form.** -/
theorem sanitizeExternalUsername_eq_none_iff (username : String) :
    sanitizeExternalUsername username = none ↔ alphanumerics username.toList = [] := by
  rw [sanitizeExternalUsername_eq]
  have hsame : alphanumerics (trimUnderscores (username.toList.filterMap sanitizeChar)) =
      alphanumerics username.toList := by
    rw [alphanumerics_trim, alphanumerics_kept]
  by_cases hempty : trimUnderscores (username.toList.filterMap sanitizeChar) = []
  · rw [hempty] at hsame ⊢
    exact ⟨fun _ => hsame.symm, fun _ => rfl⟩
  · have hcut := alphanumerics_cutName hempty
    rw [finishName_of_alphanumeric hcut]
    constructor
    · intro h
      cases h
    · intro hnone
      have hsub := alphanumerics_cutName_prefix
        (trimUnderscores (username.toList.filterMap sanitizeChar))
      rw [hsame, hnone] at hsub
      exact absurd (List.prefix_nil.mp hsub) hcut

/-- The letters and digits of a sanitised name. -/
theorem alphanumerics_sanitized {username name : String}
    (h : sanitizeExternalUsername username = some name) :
    alphanumerics name.toList ≠ [] ∧
      alphanumerics name.toList <+: alphanumerics username.toList := by
  rw [sanitizeExternalUsername_eq] at h
  have hsub := alphanumerics_cutName_prefix
    (trimUnderscores (username.toList.filterMap sanitizeChar))
  rw [alphanumerics_trim, alphanumerics_kept] at hsub
  by_cases hempty : trimUnderscores (username.toList.filterMap sanitizeChar) = []
  · rw [hempty] at h
    cases h
  · have hcut := alphanumerics_cutName hempty
    rw [finishName_of_alphanumeric hcut] at h
    cases h
    rw [String.toList_ofList, padName_eq, alphanumerics_padded]
    exact ⟨hcut, hsub⟩

/-- **No slice cuts a character, the padding ends, and what comes out is a
profile name** with a letter or a digit, made of the first letters and digits of
the name that came in; nothing comes out exactly of a name without any. -/
theorem sanitized_name_legal (username : String) :
    sanitizeByBytes username = some (sanitizeExternalUsername username) ∧
    (∀ name, sanitizeExternalUsername username = some name →
      validProfileName name = true ∧ (∃ c ∈ name.toList, isAsciiAlphanumeric c = true) ∧
        name.toList.filter isAsciiAlphanumeric <+:
          username.toList.filter isAsciiAlphanumeric) ∧
    (sanitizeExternalUsername username = none ↔
      ∀ c ∈ username.toList, isAsciiAlphanumeric c = false) := by
  refine ⟨sanitizeByBytes_eq username, fun name h => ?_, ?_⟩
  · obtain ⟨hne, hsub⟩ := alphanumerics_sanitized h
    have hany := (any_isAsciiAlphanumeric _).mpr hne
    exact ⟨(sanitized_fits h).valid, List.any_eq_true.mp hany, hsub⟩
  · rw [sanitizeExternalUsername_eq_none_iff, alphanumerics, List.filter_eq_nil_iff]
    simp only [Bool.not_eq_true]

end AsterYggdrasil.External
