import AsterYggdrasil.External.ReservedNames

/-!
# The grammar of user names

A user name has 4 to 16 characters, all of them ASCII letters, digits,
underscores or hyphens.  `validate_username` checks this of the name without
its surrounding blanks (`validateUsername_iff`).

The names that `resolution.rs` makes from the claims of a provider obey the
grammar in its lower-case form, whatever the claims are, at every attempt
(`candidate_fits`): sanitised, cut, padded and given a suffix in any
combination.
-/

namespace AsterYggdrasil.External

/-- Letters, digits, underscores and hyphens. -/
def isUsernameChar (c : Char) : Bool := isAsciiAlphanumeric c || c = '_' || c = '-'

/-- The same without capital letters. -/
def isLowerUsernameChar (c : Char) : Bool :=
  c.isLower || c.isDigit || c = '_' || c = '-'

/-- 4 to 16 admissible characters. -/
structure FitsUsername (admissible : Char → Bool) (cs : List Char) : Prop where
  min : 4 ≤ cs.length
  max : cs.length ≤ 16
  chars : ∀ c ∈ cs, admissible c = true

instance (admissible : Char → Bool) (cs : List Char) :
    Decidable (FitsUsername admissible cs) :=
  decidable_of_iff (4 ≤ cs.length ∧ cs.length ≤ 16 ∧ ∀ c ∈ cs, admissible c = true)
    ⟨fun h => ⟨h.1, h.2.1, h.2.2⟩, fun h => ⟨h.min, h.max, h.chars⟩⟩

/-! ## Bytes and blanks -/

/-- An ASCII character takes one byte. -/
theorem utf8ByteSize_ascii {cs : List Char} (h : ∀ c ∈ cs, c.toNat < 128) :
    (String.ofList cs).utf8ByteSize = cs.length := by
  induction cs with
  | nil => rfl
  | cons c cs ih =>
    have hc : c.utf8Size = 1 := by
      have hlt := h c (List.mem_cons_self ..)
      refine Char.utf8Size_eq_one_iff.mpr (UInt32.le_iff_toNat_le.mpr ?_)
      change c.toNat ≤ 127
      omega
    have hrest := ih fun d hd => h d (List.mem_cons_of_mem _ hd)
    rw [String.ofList_cons, String.utf8ByteSize_append, String.utf8ByteSize_singleton, hrest, hc,
      List.length_cons]
    omega

/-- The code point of an ASCII letter or digit. -/
theorem isAlphanum_toNat {c : Char} (h : c.isAlphanum = true) :
    48 ≤ c.toNat ∧ c.toNat ≤ 57 ∨ 65 ≤ c.toNat ∧ c.toNat ≤ 90 ∨
      97 ≤ c.toNat ∧ c.toNat ≤ 122 := by
  simp only [Char.isAlphanum, Char.isAlpha, Char.isUpper, Char.isLower, Char.isDigit,
    Bool.or_eq_true, Bool.and_eq_true, decide_eq_true_eq, ge_iff_le, UInt32.le_iff_toNat_le] at h
  change (65 ≤ c.toNat ∧ c.toNat ≤ 90 ∨ 97 ≤ c.toNat ∧ c.toNat ≤ 122) ∨
    48 ≤ c.toNat ∧ c.toNat ≤ 57 at h
  omega

theorem isUsernameChar_toNat {c : Char} (h : isUsernameChar c = true) :
    c.toNat = 45 ∨ 48 ≤ c.toNat ∧ c.toNat ≤ 122 := by
  simp only [isUsernameChar, isAsciiAlphanumeric, Bool.or_eq_true, decide_eq_true_eq] at h
  rcases h with (h | rfl) | rfl
  · have := isAlphanum_toNat h
    omega
  · decide
  · decide

theorem isWhitespace_usernameChar {c : Char} (h : isUsernameChar c = true) :
    isWhitespace c = false := by
  have hrange := isUsernameChar_toNat h
  simp only [isWhitespace, Bool.or_eq_false_iff, Bool.and_eq_false_iff, decide_eq_false_iff_not]
  omega

theorem dropWhile_eq_self {α : Type} {p : α → Bool} {xs : List α}
    (h : ∀ x ∈ xs, p x = false) : xs.dropWhile p = xs := by
  cases xs with
  | nil => rfl
  | cons x xs => rw [List.dropWhile_cons, if_neg (by simp [h x (List.mem_cons_self ..)])]

/-- A text without blanks is its own trimmed form. -/
theorem trim_eq_self {name : String} (h : ∀ c ∈ name.toList, isWhitespace c = false) :
    trim name = name := by
  have hrev : ∀ c ∈ name.toList.reverse, isWhitespace c = false :=
    fun c hc => h c (List.mem_reverse.mp hc)
  unfold trim trimChars
  rw [dropWhile_eq_self h, dropWhile_eq_self hrev, List.reverse_reverse, String.ofList_toList]

theorem FitsUsername.trim_eq {name : String} (h : FitsUsername isUsernameChar name.toList) :
    trim name = name :=
  trim_eq_self fun c hc => isWhitespace_usernameChar (h.chars c hc)

/-- `validate_username` accepts exactly the names that obey the grammar once
their surrounding blanks are gone. -/
theorem validateUsername_iff {username : String} :
    validateUsername username = .ok () ↔
      FitsUsername isUsernameChar (trim username).toList := by
  have hbytes : (∀ c ∈ (trim username).toList, isUsernameChar c = true) →
      (trim username).utf8ByteSize = (trim username).toList.length := by
    intro hchars
    have hsize := @utf8ByteSize_ascii (trim username).toList fun c hc => by
      have := isUsernameChar_toNat (hchars c hc)
      omega
    rwa [String.ofList_toList] at hsize
  have hall : ((trim username).toList.all fun c =>
      isAsciiAlphanumeric c || c = '_' || c = '-') = true ↔
      ∀ c ∈ (trim username).toList, isUsernameChar c = true := List.all_eq_true
  unfold validateUsername
  simp only
  constructor
  · intro h
    split at h
    · cases h
    split at h
    · cases h
    split at h
    · next hmin hmax hchars =>
      have hchars' := hall.mp hchars
      have hsize := hbytes hchars'
      exact ⟨by omega, by omega, hchars'⟩
    · cases h
  · intro h
    have hsize := hbytes h.chars
    have hmin := h.min
    have hmax := h.max
    rw [if_neg (by omega), if_neg (by omega), if_pos (hall.mpr h.chars)]

/-! ## Names made from claims -/

/-- `sha256_hex`: 64 hexadecimal digits. -/
structure HexDigest (lib : Library) : Prop where
  length : ∀ s, (lib.sha256Hex s).toList.length = 64
  digits : ∀ s, ∀ c ∈ (lib.sha256Hex s).toList, c.isDigit || ('a' ≤ c && c ≤ 'f')

/-- `random_username_suffix`: six lower-case letters or digits. -/
structure DrawsSuffixes (ctx : ProvisionContext) : Prop where
  length : ∀ n, (ctx.usernameSuffix n).toList.length = 6
  chars : ∀ n, ∀ c ∈ (ctx.usernameSuffix n).toList, c.isLower || c.isDigit

theorem isLower_of_hex {c : Char} (h : 'a' ≤ c ∧ c ≤ 'f') : c.isLower = true := by
  have hlow : (97 : Nat) ≤ c.toNat := UInt32.le_iff_toNat_le.mp h.1
  have hhigh : c.toNat ≤ 102 := UInt32.le_iff_toNat_le.mp h.2
  simp only [Char.isLower, Bool.and_eq_true, decide_eq_true_eq, ge_iff_le,
    UInt32.le_iff_toNat_le]
  change (97 : Nat) ≤ c.toNat ∧ c.toNat ≤ 122
  omega

/-- What `to_ascii_lowercase` makes of a letter or digit. -/
theorem isLower_toLower {c : Char} (h : c.isAlphanum = true) :
    (c.toLower.isLower || c.toLower.isDigit) = true := by
  have hall : ∀ n < 123, (Char.ofNat n).isAlphanum = true →
      ((Char.ofNat n).toLower.isLower || (Char.ofNat n).toLower.isDigit) = true := by
    decide +kernel
  have hrange := isAlphanum_toNat h
  have hc := hall c.toNat (by omega)
  rw [Char.ofNat_toNat] at hc
  exact hc h

theorem sanitizeUsernameChar_lower {c d : Char} (h : sanitizeUsernameChar c = some d) :
    isLowerUsernameChar d = true := by
  unfold sanitizeUsernameChar at h
  split at h
  · next hc =>
    cases h
    simp only [isAsciiAlphanumeric, Bool.or_eq_true, decide_eq_true_eq] at hc
    rcases hc with (hc | rfl) | rfl
    · have hlower := isLower_toLower hc
      unfold isLowerUsernameChar
      rw [hlower]
      rfl
    · decide
    · decide
  · split at h
    · cases h
      decide
    · cases h

theorem trimHyphens_sublist (cs : List Char) : List.Sublist (trimHyphens cs) cs := by
  unfold trimHyphens
  have hback := (List.dropWhile_sublist (· = '-')
    (l := (cs.dropWhile (· = '-')).reverse)).reverse
  rw [List.reverse_reverse] at hback
  exact hback.trans (List.dropWhile_sublist _)

theorem sanitizeUsernamePiece_lower {value : String} {c : Char}
    (h : c ∈ sanitizeUsernamePiece value) : isLowerUsernameChar c = true := by
  have hmem := (trimHyphens_sublist _).subset h
  obtain ⟨d, -, hd⟩ := List.mem_filterMap.mp hmem
  exact sanitizeUsernameChar_lower hd

theorem usablePiece_some {value : String} {piece : List Char}
    (h : usablePiece value = some piece) :
    4 ≤ piece.length ∧ ∀ c ∈ piece, isLowerUsernameChar c = true := by
  unfold usablePiece at h
  simp only at h
  split at h
  · next hmin =>
    cases h
    exact ⟨hmin, fun c hc => sanitizeUsernamePiece_lower hc⟩
  · cases h

/-- **The base of the names obeys the grammar.** -/
theorem base_fits {lib : Library} (hlib : HexDigest lib) (claims : UserClaims) :
    FitsUsername isLowerUsernameChar (externalAuthUsernameBase lib claims) := by
  -- what the base is made of
  let fallback := "oidc".toList ++ (lib.sha256Hex claims.subject).toList.take 8
  have hfallback : 4 ≤ fallback.length ∧ ∀ c ∈ fallback, isLowerUsernameChar c = true := by
    refine ⟨?_, ?_⟩
    · have hoidc : "oidc".toList.length = 4 := rfl
      rw [List.length_append, hoidc]
      omega
    · intro c hc
      rcases List.mem_append.mp hc with hc | hc
      · have hoidc : "oidc".toList.all isLowerUsernameChar = true := by decide
        exact List.all_eq_true.mp hoidc c hc
      · have hdigit := hlib.digits claims.subject c (List.mem_of_mem_take hc)
        simp only [Bool.or_eq_true, Bool.and_eq_true, decide_eq_true_eq] at hdigit
        rcases hdigit with hdigit | hletter
        · simp [isLowerUsernameChar, hdigit]
        · simp [isLowerUsernameChar, isLower_of_hex hletter]
  let fromName := claims.preferredUsername.bind usablePiece
  let fromEmail := claims.email.bind fun email =>
    usablePiece (String.ofList (email.toList.takeWhile (· ≠ '@')))
  let base := (fromName.orElse fun _ => fromEmail).getD fallback
  have hbase : 4 ≤ base.length ∧ ∀ c ∈ base, isLowerUsernameChar c = true := by
    cases hname : fromName with
    | some piece =>
      obtain ⟨value, -, hpiece⟩ := Option.bind_eq_some_iff.mp hname
      have heq : base = piece := by simp [base, hname]
      rw [heq]
      exact usablePiece_some hpiece
    | none =>
      cases hemail : fromEmail with
      | some piece =>
        obtain ⟨value, -, hpiece⟩ := Option.bind_eq_some_iff.mp hemail
        have heq : base = piece := by simp [base, hname, hemail]
        rw [heq]
        exact usablePiece_some hpiece
      | none =>
        have heq : base = fallback := by simp [base, hname, hemail]
        rw [heq]
        exact hfallback
  -- cut and padded
  let cut := if 16 < base.length then trimHyphens (base.take 16) else base
  have hcut : cut.length ≤ 16 ∧ ∀ c ∈ cut, c ∈ base := by
    by_cases hlong : 16 < base.length
    · have hsub := trimHyphens_sublist (base.take 16)
      have hlength := hsub.length_le
      rw [List.length_take] at hlength
      simp only [cut, if_pos hlong]
      exact ⟨by omega, fun c hc => List.mem_of_mem_take (hsub.subset hc)⟩
    · simp only [cut, if_neg hlong]
      exact ⟨by omega, fun c hc => hc⟩
  change FitsUsername isLowerUsernameChar (cut ++ List.replicate (4 - cut.length) '0')
  refine ⟨?_, ?_, ?_⟩
  · rw [List.length_append, List.length_replicate]
    omega
  · rw [List.length_append, List.length_replicate]
    omega
  · intro c hc
    rcases List.mem_append.mp hc with hc | hc
    · exact hbase.2 c (hcut.2 c hc)
    · rw [List.eq_of_mem_replicate hc]
      decide

/-- A candidate made from a name that obeys the grammar obeys it. -/
theorem externalAuthUsernameCandidate_fits {ctx : ProvisionContext} (hctx : DrawsSuffixes ctx)
    {base : List Char} (hbase : FitsUsername isLowerUsernameChar base) (attempt : Nat) :
    FitsUsername isLowerUsernameChar (externalAuthUsernameCandidate ctx base attempt) := by
  unfold externalAuthUsernameCandidate
  by_cases hfirst : attempt = 0
  · rw [if_pos hfirst]
    exact hbase
  rw [if_neg hfirst]
  have hlength := hctx.length attempt
  have hsuffix : ∀ c ∈ (ctx.usernameSuffix attempt).toList, isLowerUsernameChar c = true := by
    intro c hc
    unfold isLowerUsernameChar
    rw [hctx.chars attempt c hc]
    rfl
  have hbytes : (ctx.usernameSuffix attempt).utf8ByteSize = 6 := by
    have hsize := @utf8ByteSize_ascii (ctx.usernameSuffix attempt).toList fun c hc => by
      have halpha : c.isAlphanum = true := by
        have := hctx.chars attempt c hc
        simp only [Char.isAlphanum, Char.isAlpha, Bool.or_eq_true] at this ⊢
        tauto
      have := isAlphanum_toNat halpha
      omega
    rw [String.ofList_toList] at hsize
    omega
  simp only [hbytes]
  let stem := if 16 - (6 + 1) < base.length then trimHyphens (base.take (16 - (6 + 1)))
    else base
  have hstem : stem.length ≤ 9 ∧ ∀ c ∈ stem, isLowerUsernameChar c = true := by
    by_cases hlong : 16 - (6 + 1) < base.length
    · have hsub := trimHyphens_sublist (base.take (16 - (6 + 1)))
      have hle := hsub.length_le
      rw [List.length_take] at hle
      simp only [stem, if_pos hlong]
      exact ⟨by omega, fun c hc => hbase.chars c (List.mem_of_mem_take (hsub.subset hc))⟩
    · simp only [stem, if_neg hlong]
      exact ⟨by omega, hbase.chars⟩
  let used := if stem.length < 4 then "oidc".toList else stem
  have hused : 4 ≤ used.length ∧ used.length ≤ 9 ∧
      ∀ c ∈ used, isLowerUsernameChar c = true := by
    by_cases hshort : stem.length < 4
    · simp only [used, if_pos hshort]
      have hoidc : "oidc".toList.all isLowerUsernameChar = true := by decide
      exact ⟨by decide, by decide, List.all_eq_true.mp hoidc⟩
    · simp only [used, if_neg hshort]
      exact ⟨by omega, hstem⟩
  change FitsUsername isLowerUsernameChar (used ++ '-' :: (ctx.usernameSuffix attempt).toList)
  refine ⟨?_, ?_, ?_⟩
  · rw [List.length_append, List.length_cons]
    omega
  · rw [List.length_append, List.length_cons]
    omega
  · intro c hc
    rcases List.mem_append.mp hc with hc | hc
    · exact hused.2.2 c hc
    · rcases List.mem_cons.mp hc with rfl | hc
      · decide
      · exact hsuffix c hc

/-- The name made from a LinuxDO subject obeys the grammar. -/
theorem linuxdoSubjectUsernameCandidate_fits {claims : UserClaims} {name : List Char}
    (h : linuxdoSubjectUsernameCandidate claims = some name) :
    FitsUsername isLowerUsernameChar name := by
  unfold linuxdoSubjectUsernameCandidate at h
  simp only at h
  split at h
  · cases h
  · cases h
    have hlength : linuxdoUsernamePrefix.length = 8 := rfl
    refine ⟨?_, ?_, ?_⟩
    · rw [List.length_append, hlength]
      omega
    · rw [List.length_append, hlength, List.length_take]
      omega
    · intro c hc
      rcases List.mem_append.mp hc with hc | hc
      · have hlead : linuxdoUsernamePrefix.all isLowerUsernameChar = true := by decide
        exact List.all_eq_true.mp hlead c hc
      · exact sanitizeUsernamePiece_lower (List.mem_of_mem_take hc)

/-- **Every candidate obeys the grammar**, for every provider, at every attempt
and with every suffix that can be drawn. -/
theorem candidate_fits {lib : Library} (hlib : HexDigest lib) {ctx : ProvisionContext}
    (hctx : DrawsSuffixes ctx) (provider : Provider) (claims : UserClaims) (attempt : Nat) :
    FitsUsername isLowerUsernameChar (usernameCandidateForProvider ctx provider claims
      (externalAuthUsernameBase lib claims) attempt).toList := by
  have hbase := base_fits hlib claims
  unfold usernameCandidateForProvider
  split
  · rw [String.toList_ofList]
    exact externalAuthUsernameCandidate_fits hctx hbase attempt
  · rw [String.toList_ofList]
    refine externalAuthUsernameCandidate_fits hctx ?_ attempt
    cases hname : linuxdoSubjectUsernameCandidate claims with
    | none => exact hbase
    | some name => exact linuxdoSubjectUsernameCandidate_fits hname

/-- The lower-case grammar is the stricter one. -/
theorem FitsUsername.of_lower {cs : List Char} (h : FitsUsername isLowerUsernameChar cs) :
    FitsUsername isUsernameChar cs := by
  refine ⟨h.min, h.max, fun c hc => ?_⟩
  have hlower := h.chars c hc
  simp only [isLowerUsernameChar, isUsernameChar, isAsciiAlphanumeric, Char.isAlphanum,
    Char.isAlpha, Bool.or_eq_true, decide_eq_true_eq] at hlower ⊢
  tauto

end AsterYggdrasil.External
