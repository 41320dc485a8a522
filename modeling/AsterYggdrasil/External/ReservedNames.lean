import AsterYggdrasil.External.Operations

/-!
# Reserved names

The names `linuxdo_N` on characters: what the two sanitizers make of a LinuxDO
subject, which of the generated names are reserved at all, and why the check of
a name without its surrounding blanks covers the name as it is stored.
-/

namespace AsterYggdrasil.External

open Interleave.Prog

/-- The name LinuxDO accounts get: the subject, cut so that the name stays within
16 characters. -/
def linuxdoUsername (subject : String) : String :=
  String.ofList (linuxdoUsernamePrefix ++ subject.toList.take 8)

/-- The names a profile of a LinuxDO account may get from its subject: that name,
or the name with a numeric suffix when it is taken. -/
def linuxdoProfileNames (subject : String) : List String :=
  linuxdoUsername subject ::
    (List.range' 1 99).map (suffixedName (linuxdoUsername subject))

/-- One or more decimal digits. -/
structure Digits (cs : List Char) : Prop where
  nonempty : cs ≠ []
  digit : ∀ c ∈ cs, c.isDigit = true

theorem digits_toString (n : Nat) : Digits (toString n).toList := by
  have hlist : (toString n).toList = Nat.toDigits 10 n := Nat.toList_repr
  rw [hlist]
  exact ⟨Nat.toDigits_ne_nil, fun c hc =>
    Nat.isDigit_of_mem_toDigits (by decide) (by decide) hc⟩

theorem Digits.take {cs : List Char} (h : Digits cs) {n : Nat} (hn : 0 < n) :
    Digits (cs.take n) := by
  refine ⟨fun hnil => ?_, fun c hc => h.digit c (List.mem_of_mem_take hc)⟩
  rcases List.take_eq_nil_iff.mp hnil with hzero | hcs
  · omega
  · exact h.nonempty hcs

theorem stripLinuxdo_eq_some {cs rest : List Char} (h : stripLinuxdo cs = some rest) :
    cs = linuxdoUsernamePrefix ++ rest := by
  unfold stripLinuxdo at h
  split at h
  · cases h
    rfl
  · cases h

/-- A reserved name is `linuxdo_` and digits. -/
theorem isReserved_iff {name : String} :
    isReservedLinuxdoProfileName name = true ↔
      ∃ ds, Digits ds ∧ name.toList = linuxdoUsernamePrefix ++ ds := by
  unfold isReservedLinuxdoProfileName
  constructor
  · intro h
    split at h
    · cases h
    · next subject hstrip =>
        simp only [Bool.and_eq_true, Bool.not_eq_true', List.isEmpty_eq_false_iff,
          List.all_eq_true] at h
        exact ⟨subject, ⟨h.1, h.2⟩, stripLinuxdo_eq_some hstrip⟩
  · rintro ⟨ds, hds, hname⟩
    have hstrip : stripLinuxdo name.toList = some ds := by
      rw [hname]
      rfl
    rw [hstrip]
    simpa [hds.nonempty] using hds.digit

/-! ## Trimming -/

/-- Nothing is trimmed from digits, nor from digits behind a beginning that
stays. -/
theorem Digits.trimmed {p : Char → Bool} {ds : List Char} (hds : Digits ds)
    (start : List Char)
    (hp : ∀ c, c.isDigit = true → p c = false)
    (hstart : ∀ c ∈ start.head?, p c = false) :
    (((start ++ ds).dropWhile p).reverse.dropWhile p).reverse = start ++ ds := by
  have hhead : (start ++ ds).dropWhile p = start ++ ds := by
    cases start with
    | nil =>
        cases ds with
        | nil => rfl
        | cons d ds => simp [hp d (hds.digit d (List.mem_cons_self ..))]
    | cons c start => simp [hstart c rfl]
  obtain ⟨init, last, hlast⟩ := (List.eq_nil_or_concat ds).resolve_left hds.nonempty
  have hdigit : p last = false := hp last (hds.digit last (by simp [hlast]))
  rw [hhead, hlast]
  simp [hdigit]

theorem isDigit_toNat {c : Char} (h : c.isDigit = true) : 48 ≤ c.toNat ∧ c.toNat ≤ 57 := by
  simp only [Char.isDigit, Bool.and_eq_true, decide_eq_true_eq] at h
  exact ⟨UInt32.le_iff_toNat_le.mp h.1, UInt32.le_iff_toNat_le.mp h.2⟩

theorem isWhitespace_digit {c : Char} (h : c.isDigit = true) : isWhitespace c = false := by
  obtain ⟨hlow, hhigh⟩ := isDigit_toNat h
  simp only [isWhitespace, Bool.or_eq_false_iff, Bool.and_eq_false_iff, decide_eq_false_iff_not]
  omega

theorem toLower_digit {c : Char} (h : c.isDigit = true) : c.toLower = c := by
  obtain ⟨-, hhigh⟩ := isDigit_toNat h
  have hval : ¬ 65 ≤ c.val := fun hle => by
    have := UInt32.le_iff_toNat_le.mp hle
    have h65 : (65 : UInt32).toNat = 65 := rfl
    rw [h65] at this
    change 65 ≤ c.toNat at this
    omega
  exact dif_neg fun h => hval h.1

theorem digit_ne {c d : Char} (h : c.isDigit = true) (hd : d.isDigit = false) :
    decide (c = d) = false := by
  refine decide_eq_false fun heq => ?_
  rw [heq, hd] at h
  cases h

/-- The reservation check looks at the name without its surrounding blanks, and
so it also refuses the name as it is stored. -/
theorem not_reserved_of_trim {name : String}
    (h : isReservedLinuxdoProfileName (trim name) = false) :
    isReservedLinuxdoProfileName name = false := by
  rw [← Bool.not_eq_true] at h ⊢
  intro hname
  obtain ⟨ds, hds, hlist⟩ := isReserved_iff.mp hname
  have htrim : trimChars name.toList = name.toList := by
    rw [hlist]
    exact hds.trimmed _ (fun c hc => isWhitespace_digit hc)
      fun c hc => by cases hc; rfl
  refine h (isReserved_iff.mpr ⟨ds, hds, ?_⟩)
  rw [trim, htrim, String.ofList_toList]
  exact hlist

theorem validateReservedUsername_ok {name : String}
    (h : validateReservedUsername name = .ok ()) :
    isReservedLinuxdoProfileName (trim name) = false := by
  unfold validateReservedUsername at h
  split at h
  · cases h
  · next hname => exact Bool.not_eq_true _ ▸ hname

theorem validateAdminIdentityInput_ok {lib : Library} {username email password out : String}
    (h : validateAdminIdentityInput lib username email password = .ok out) :
    isReservedLinuxdoProfileName (trim username) = false := by
  obtain ⟨_, -, h⟩ := except_bind_ok h
  obtain ⟨_, hreserved, -⟩ := except_bind_ok h
  exact validateReservedUsername_ok hreserved

theorem normalizeUpdatedUsername_ok {username name : String}
    (h : normalizeUpdatedUsername username = .ok name) :
    isReservedLinuxdoProfileName name = false := by
  obtain ⟨_, -, h⟩ := except_bind_ok h
  obtain ⟨_, hreserved, h⟩ := except_bind_ok h
  cases h
  exact validateReservedUsername_ok hreserved

/-! ## Generated names -/

/-- A subject of digits is already sanitized. -/
theorem sanitizeUsernamePiece_digits {subject : String} (h : Digits subject.toList) :
    sanitizeUsernamePiece subject = subject.toList := by
  have hkept : subject.toList.filterMap sanitizeUsernameChar = subject.toList := by
    have hmap : subject.toList.filterMap sanitizeUsernameChar =
        subject.toList.filterMap some := by
      refine List.filterMap_congr fun c hc => ?_
      have hdigit := h.digit c hc
      simp [sanitizeUsernameChar, isAsciiAlphanumeric, Char.isAlphanum, hdigit,
        toLower_digit hdigit]
    rw [hmap, List.filterMap_some]
  rw [sanitizeUsernamePiece, hkept]
  exact h.trimmed [] (fun c hc => digit_ne hc rfl) fun c hc => by cases hc

/-- A name with a hyphen is not reserved. -/
theorem not_reserved_of_hyphen {cs : List Char} (h : '-' ∈ cs) :
    isReservedLinuxdoProfileName (String.ofList cs) = false := by
  rw [← Bool.not_eq_true]
  intro hname
  obtain ⟨ds, hds, hlist⟩ := isReserved_iff.mp hname
  rw [String.toList_ofList] at hlist
  rw [hlist, List.mem_append] at h
  rcases h with h | h
  · revert h
    decide
  · have := hds.digit _ h
    cases this

/-- **The only reserved name a LinuxDO account can get** is the one of its
subject; the later attempts carry a hyphen. -/
theorem usernameCandidate_reserved {ctx : ProvisionContext} {provider : Provider}
    {claims : UserClaims} {base : List Char} {attempt : Nat}
    (hkind : provider.kind = .linuxDo) (hsubject : Digits claims.subject.toList)
    (h : isReservedLinuxdoProfileName
      (usernameCandidateForProvider ctx provider claims base attempt) = true) :
    usernameCandidateForProvider ctx provider claims base attempt =
      linuxdoUsername claims.subject := by
  have hcandidate : linuxdoSubjectUsernameCandidate claims =
      some (linuxdoUsernamePrefix ++ claims.subject.toList.take 8) := by
    simp [linuxdoSubjectUsernameCandidate, sanitizeUsernamePiece_digits hsubject,
      hsubject.nonempty]
  simp only [usernameCandidateForProvider, hkind, hcandidate, Option.getD_some,
    externalAuthUsernameCandidate] at h ⊢
  by_cases hfirst : attempt = 0
  · simp [hfirst, linuxdoUsername]
  · simp only [hfirst, if_false] at h
    rw [if_neg (by simp)] at h
    rw [not_reserved_of_hyphen (by simp)] at h
    cases h

/-- The fallback name of a LinuxDO profile is the one of the subject. -/
theorem sanitizeExternalUsername_linuxdo {subject : String} (h : Digits subject.toList) :
    sanitizeExternalUsername ("linuxdo_" ++ subject) = some (linuxdoUsername subject) := by
  have hkept : ("linuxdo_" ++ subject).toList.filterMap sanitizeChar =
      linuxdoUsernamePrefix ++ subject.toList := by
    rw [String.toList_append, List.filterMap_append]
    have hdigits : subject.toList.filterMap sanitizeChar =
        subject.toList.filterMap some := by
      refine List.filterMap_congr fun c hc => ?_
      simp [sanitizeChar, isAsciiAlphanumeric, Char.isAlphanum, h.digit c hc]
    rw [hdigits, List.filterMap_some]
    rfl
  have htrim : ∀ {ds : List Char}, Digits ds →
      trimUnderscores (linuxdoUsernamePrefix ++ ds) = linuxdoUsernamePrefix ++ ds := by
    intro ds hds
    exact hds.trimmed _ (fun c hc => digit_ne hc rfl) fun c hc => by cases hc; rfl
  -- both ways the cut leaves eight digits at most
  have hcut : (if 16 < (linuxdoUsernamePrefix ++ subject.toList).length then
        trimUnderscores ((linuxdoUsernamePrefix ++ subject.toList).take 16)
      else linuxdoUsernamePrefix ++ subject.toList) =
      linuxdoUsernamePrefix ++ subject.toList.take 8 := by
    have hlength : linuxdoUsernamePrefix.length = 8 := rfl
    split
    · have htake : (linuxdoUsernamePrefix ++ subject.toList).take 16 =
          linuxdoUsernamePrefix ++ subject.toList.take 8 := by
        rw [List.take_append, hlength]
        rfl
      rw [htake, htrim (h.take (by decide))]
    · next hshort =>
        rw [List.length_append, hlength] at hshort
        rw [List.take_of_length_le (by omega)]
  have hlong : 3 - (linuxdoUsernamePrefix ++ subject.toList.take 8).length = 0 := by
    have hlength : linuxdoUsernamePrefix.length = 8 := rfl
    rw [List.length_append, hlength]
    omega
  unfold sanitizeExternalUsername
  rw [hkept, htrim h]
  dsimp only
  rw [hcut, hlong, List.replicate_zero, List.append_nil]
  rfl

end AsterYggdrasil.External
