import AsterYggdrasil.External.NameGrammar

/-!
# The automatic profile of an external login

`create_profile_for_external_auth` tries the sanitised name of the provider, then
the sanitised fallback name, then the last of the two with a number behind it, and
creates a profile under the first that is not taken.

Only a fallback name of its own may be a reserved LinuxDO name.  If it differs from
the provider's name in no more than capitals, it is left out and its permission with
it; the numbered names are then tried without permission, and the first of them
that nobody has may be reserved (`auto_profile_created_iff`).
-/

namespace AsterYggdrasil.External

open Interleave Relational Prog

/-! ## The grammar of profile names -/

/-- 3 to 16 letters, digits and underscores. -/
structure FitsProfileName (cs : List Char) : Prop where
  min : 3 ≤ cs.length
  max : cs.length ≤ 16
  chars : ∀ c ∈ cs, isAsciiAlphanumeric c = true ∨ c = '_'

theorem FitsProfileName.valid {name : String} (h : FitsProfileName name.toList) :
    validProfileName name = true := by
  have hascii : ∀ c ∈ name.toList, c.toNat < 128 := by
    intro c hc
    rcases h.chars c hc with halnum | rfl
    · have hrange := isAlphanum_toNat halnum
      omega
    · decide
  have hbytes : name.utf8ByteSize = name.toList.length := by
    have hsize := utf8ByteSize_ascii hascii
    rwa [String.ofList_toList] at hsize
  have hchars : (name.toList.all fun c => isAsciiAlphanumeric c || c = '_') = true := by
    refine List.all_eq_true.mpr fun c hc => ?_
    rcases h.chars c hc with halnum | rfl
    · rw [halnum]
      rfl
    · rfl
  unfold validProfileName
  rw [hbytes, hchars]
  simp [h.min, h.max]

theorem trimUnderscores_sublist (cs : List Char) : (trimUnderscores cs).Sublist cs := by
  have hback := (List.dropWhile_sublist (fun c => decide (c = '_'))
    (l := (cs.dropWhile fun c => decide (c = '_')).reverse)).reverse
  rw [List.reverse_reverse] at hback
  exact hback.trans (List.dropWhile_sublist _)

/-- Whatever the provider calls the user, its sanitised form is a profile name. -/
theorem sanitized_fits {username name : String}
    (h : sanitizeExternalUsername username = some name) : FitsProfileName name.toList := by
  let kept := username.toList.filterMap sanitizeChar
  have hkept : ∀ c ∈ kept, isAsciiAlphanumeric c = true ∨ c = '_' := by
    intro c hc
    obtain ⟨d, -, hd⟩ := List.mem_filterMap.mp hc
    unfold sanitizeChar at hd
    split at hd
    · next halnum =>
      cases hd
      exact Or.inl halnum
    · split at hd
      · cases hd
        exact Or.inr rfl
      · cases hd
  let cut := if 16 < (trimUnderscores kept).length
    then trimUnderscores ((trimUnderscores kept).take 16) else trimUnderscores kept
  have hcut : cut.Sublist kept ∧ cut.length ≤ 16 := by
    by_cases hlong : 16 < (trimUnderscores kept).length
    · have hsub := trimUnderscores_sublist ((trimUnderscores kept).take 16)
      have hlength := hsub.length_le
      rw [List.length_take] at hlength
      simp only [cut, if_pos hlong]
      exact ⟨(hsub.trans (List.take_sublist _ _)).trans (trimUnderscores_sublist _), by omega⟩
    · simp only [cut, if_neg hlong]
      exact ⟨trimUnderscores_sublist _, by omega⟩
  have hname : name = String.ofList (cut ++ List.replicate (3 - cut.length) '_') := by
    change (if cut.isEmpty = true then none else
      if (cut ++ List.replicate (3 - cut.length) '_').any isAsciiAlphanumeric = true then
        some (String.ofList (cut ++ List.replicate (3 - cut.length) '_')) else none) = some name at h
    by_cases hempty : cut.isEmpty = true
    · rw [if_pos hempty] at h
      cases h
    · rw [if_neg hempty] at h
      by_cases hany : (cut ++ List.replicate (3 - cut.length) '_').any isAsciiAlphanumeric = true
      · rw [if_pos hany] at h
        exact (Option.some.inj h).symm
      · rw [if_neg hany] at h
        cases h
  rw [hname, String.toList_ofList]
  refine ⟨?_, ?_, fun c hc => ?_⟩
  · rw [List.length_append, List.length_replicate]
    omega
  · rw [List.length_append, List.length_replicate]
    have := hcut.2
    omega
  · rcases List.mem_append.mp hc with hc | hc
    · exact hkept c (hcut.1.subset hc)
    · exact Or.inr (List.eq_of_mem_replicate hc)

/-- The numbers that are tried have one or two digits. -/
theorem length_number {k : Nat} (hk : 1 ≤ k ∧ k ≤ 99) : (toString k).toList.length ≤ 2 := by
  have hlist : (toString k).toList = Nat.toDigits 10 k := Nat.toList_repr
  rw [hlist]
  exact (Nat.length_toDigits_le_iff (by decide) (by decide)).mpr (by omega)

/-- So is such a name with a number behind it. -/
theorem suffixedName_fits {name : String} (h : FitsProfileName name.toList) {k : Nat}
    (hk : 1 ≤ k ∧ k ≤ 99) : FitsProfileName (suffixedName name k).toList := by
  have hdigits := digits_toString k
  have hlength := length_number hk
  have hpos : 0 < (toString k).toList.length := List.length_pos_iff.mpr hdigits.nonempty
  have hmin := h.min
  have hmax := h.max
  unfold suffixedName
  rw [String.toList_ofList]
  refine ⟨?_, ?_, fun c hc => ?_⟩
  · rw [List.length_append, List.length_take]
    omega
  · rw [List.length_append, List.length_take]
    omega
  · rcases List.mem_append.mp hc with hc | hc
    · exact h.chars c (List.mem_of_mem_take hc)
    · left
      have hdigit := hdigits.digit c hc
      unfold isAsciiAlphanumeric Char.isAlphanum
      rw [hdigit, Bool.or_true]

/-! ## What is looked up -/

/-- Somebody has the name: a profile, or an account that is not the owner's. -/
def nameTaken (db : Db) (userId : Nat) (name : String) : Bool :=
  (db.profiles.find? fun p => p.normalizedName = normalizeProfileName name).isSome ||
    (db.users.find? fun u => toAsciiLowercase u.username = toAsciiLowercase name).any
      fun u => u.id ≠ userId

section Runs

variable {ctx : ProfileContext} {userId : Nat} {userRole : UserRole} {s : ServiceState}

theorem run_profileNameTaken (name : String) :
    (profileNameTaken name userId none).run serviceMachine s =
      (.ok (nameTaken s.db userId name), s) := by
  have hread : (query (.profileFindByName name)).run serviceMachine s =
      (.ok (s.db.profiles.find? fun p => p.normalizedName = normalizeProfileName name), s) := rfl
  unfold profileNameTaken nameTaken
  rw [bind_eq, run_bind, hread]
  dsimp only
  cases s.db.profiles.find? fun p => p.normalizedName = normalizeProfileName name with
  | none => rfl
  | some p => rfl

/-- A name that may be created with this permission. -/
def permitted (c : String × Bool) : Bool := c.2 || !isReservedLinuxdoProfileName c.1

theorem run_firstFreeCandidate (names : List (String × Bool)) :
    (firstFreeCandidate userId names).run serviceMachine s =
      (.ok (names.find? fun c => permitted c && !nameTaken s.db userId c.1), s) := by
  induction names with
  | nil => rfl
  | cons c rest ih =>
    obtain ⟨name, allow⟩ := c
    unfold firstFreeCandidate
    cases hskip : !allow && isReservedLinuxdoProfileName name with
    | true =>
      have hnot : permitted (name, allow) = false := by
        simpa [permitted] using hskip
      rw [if_pos rfl, ih, List.find?_cons_of_neg (by simp [hnot])]
    | false =>
      have hper : permitted (name, allow) = true := by
        cases allow <;> simp_all [permitted]
      rw [if_neg (by decide), bind_eq, run_bind, run_profileNameTaken]
      cases htaken : nameTaken s.db userId name with
      | true =>
        rw [List.find?_cons_of_neg (by simp [htaken])]
        exact ih
      | false =>
        rw [List.find?_cons_of_pos (by simp [hper, htaken])]
        rfl

/-- The numbered names, as far as they are tried. -/
theorem run_firstFreeSuffix (name candidate : String) (ks : List Nat) :
    (firstFreeSuffix userId name candidate ks).run serviceMachine s =
      (.ok (((ks.find? fun k => !nameTaken s.db userId (suffixedName name k)).map
        (suffixedName name)).getD ((ks.map (suffixedName name)).getLastD candidate)), s) := by
  induction ks generalizing candidate with
  | nil => rfl
  | cons k ks ih =>
    unfold firstFreeSuffix
    dsimp only
    rw [bind_eq, run_bind, run_profileNameTaken]
    cases htaken : nameTaken s.db userId (suffixedName name k) with
    | true =>
      rw [List.find?_cons_of_neg (by simp [htaken])]
      refine (ih (suffixedName name k)).trans ?_
      rw [List.map_cons, List.getLastD_cons]
    | false =>
      rw [List.find?_cons_of_pos (by simp [htaken])]
      rfl

/-! ## One creation -/

/-- The account exists, may manage profiles and has room for one more; nobody is
asked about the name, and the drawn uuid is new. -/
structure MayCreate (ctx : ProfileContext) (userId : Nat) (userRole : UserRole)
    (s : ServiceState) : Prop where
  account : (s.db.users.find? fun u => u.id = userId).isSome = true
  unbanned : s.db.findEffectiveBan userId .minecraftProfileManage = none
  quota : userRole.isAdmin = true ∨
    (s.db.profiles.select fun p => p.userId = userId).length < ctx.policy.maxProfilesPerUser
  mojang : ctx.policy.mojangNameCheckEnabled = false
  uuid : (s.db.profiles.find? fun p => p.uuid = ctx.newUuid) = none

/-- The columns of the profile. -/
def autoProfile (ctx : ProfileContext) (userId : Nat) (name : String) : CreateProfile where
  userId := userId
  uuid := ctx.newUuid
  name := name
  source := .localProfile
  textureModel := .default
  uploadableTextures := ctx.policy.uploadableTexturesValue

theorem run_ensureMayManageProfiles (h : MayCreate ctx userId userRole s) :
    (ensureMayManageProfiles userId).run serviceMachine s = (.ok (), s) := by
  have hread : (isUserBanned userId .minecraftProfileManage).run serviceMachine s =
      (.ok (s.db.findEffectiveBan userId .minecraftProfileManage).isSome, s) := rfl
  unfold ensureMayManageProfiles
  rw [bind_eq, run_bind, hread, h.unbanned]
  rfl

theorem run_checkProfileQuota (h : MayCreate ctx userId userRole s) {input : CreateProfileInput}
    (hid : input.userId = userId) (hrole : input.userRole = userRole) :
    (checkProfileQuota ctx input).run serviceMachine s = (.ok (), s) := by
  have hread : (query (.profileCountByUser input.userId)).run serviceMachine s =
      (.ok (s.db.profiles.select fun p => p.userId = input.userId).length, s) := rfl
  unfold checkProfileQuota
  rw [hrole]
  rcases h.quota with hadmin | hroom
  · rw [if_pos hadmin]
    rfl
  · split
    · rfl
    · rw [bind_eq, run_bind, hread, hid]
      have hbelow : decide (ctx.policy.maxProfilesPerUser ≤
          (s.db.profiles.select fun p => p.userId = userId).length) = false := by
        simp only [decide_eq_false_iff_not]
        omega
      simp only [hbelow]
      rfl

/-- The insert, if nobody has the name. -/
theorem exec_autoProfile (h : MayCreate ctx userId userRole s) {name : String}
    (hfree : nameTaken s.db userId name = false) :
    ∃ profiles : Table profileSchema,
      (DbStmt.profileInsert (autoProfile ctx userId name)).exec s.db =
        (some (Db.newProfile s.db.now s.db.profiles.seq (autoProfile ctx userId name)),
          { s.db with profiles := profiles }) ∧
      profiles.rows = s.db.profiles.rows ++
        [Db.newProfile s.db.now s.db.profiles.seq (autoProfile ctx userId name)] := by
  have hclash : (∀ p ∈ s.db.profiles.nextId.2.rows, profileSchema.clash p
      (Db.newProfile s.db.now s.db.profiles.seq (autoProfile ctx userId name)) = false) ∧
      s.db.profiles.seq < s.db.profiles.nextId.2.seq := by
    refine ⟨fun p hp => ?_, Nat.lt_succ_self _⟩
    have hid : p.id ≠ s.db.profiles.seq := Nat.ne_of_lt (s.db.profiles.fresh p hp)
    have huuid : p.uuid ≠ ctx.newUuid := by
      have hno := Table.find?_eq_none.mp h.uuid p hp
      simpa using hno
    have hname : p.normalizedName ≠ normalizeProfileName name := by
      obtain ⟨hprofiles, -⟩ := Bool.or_eq_false_iff.mp hfree
      have hnone := Option.not_isSome_iff_eq_none.mp (Bool.eq_false_iff.mp hprofiles)
      have hno := Table.find?_eq_none.mp hnone p hp
      simpa using hno
    simp [profileSchema, Db.newProfile, autoProfile, hid, huuid, hname]
  obtain ⟨owner, howner⟩ := Option.isSome_iff_exists.mp h.account
  have hfound : (s.db.users.find? fun u => u.id = (autoProfile ctx userId name).userId) =
      some owner := howner
  obtain ⟨profiles, hinsert⟩ := Table.exists_insert? (σ := profileSchema)
    (r := Db.newProfile s.db.now s.db.profiles.seq (autoProfile ctx userId name)) hclash.1 hclash.2
  refine ⟨profiles, ?_, (Table.insert?_eq_some hinsert).1⟩
  simp only [DbStmt.exec, hfound, Table.nextId_fst, hinsert]

/-- The insert of the service. -/
theorem run_profileCreate (h : MayCreate ctx userId userRole s) {name : String}
    (hfree : nameTaken s.db userId name = false) :
    ∃ s' : ServiceState,
      (onPool .aster (profileCreateWithSource (autoProfile ctx userId name))).run
        serviceMachine s =
          (.ok (Db.newProfile s.db.now s.db.profiles.seq (autoProfile ctx userId name)), s') ∧
      s'.db.profiles.rows = s.db.profiles.rows ++
        [Db.newProfile s.db.now s.db.profiles.seq (autoProfile ctx userId name)] := by
  obtain ⟨profiles, hexec, hrows⟩ := exec_autoProfile h hfree
  refine ⟨{ s with db := { s.db with profiles := profiles } }, ?_, hrows⟩
  unfold onPool profileCreateWithSource
  rw [run_hoist]
  have hrun : (sql (.profileInsert (autoProfile ctx userId name))).run
      (serviceMachine.pullback poolHom) s =
        (.ok (some (Db.newProfile s.db.now s.db.profiles.seq (autoProfile ctx userId name))),
          { s with db := { s.db with profiles := profiles } }) := by
    change (Except.ok ((DbStmt.profileInsert (autoProfile ctx userId name)).exec s.db).1,
      { s with db := ((DbStmt.profileInsert (autoProfile ctx userId name)).exec s.db).2 }) = _
    rw [hexec]
  rw [bind_eq, run_bind, hrun]
  rfl

/-- What is left of a creation once the owner and the form of the name are
checked. -/
theorem run_createProfileInner (h : MayCreate ctx userId userRole s) {name : String}
    (hvalid : validProfileName name = true) (allow : Bool) :
    (createProfileInner ctx userId userRole name allow).run serviceMachine s =
      if permitted (name, allow) = true then
        if nameTaken s.db userId name = true then
          (.error (.aster (.validation (some .minecraftProfileNameTaken)
            "profile name already exists")), s)
        else (onPool .aster (profileCreateWithSource (autoProfile ctx userId name))).run
          serviceMachine s
      else (.error (.aster reservedProfileName), s) := by
  have huuid : (query (.profileFindByUuid ctx.newUuid)).run serviceMachine s = (.ok none, s) := by
    have hread : (query (.profileFindByUuid ctx.newUuid)).run serviceMachine s =
        (.ok (s.db.profiles.find? fun p => p.uuid = ctx.newUuid), s) := rfl
    rw [hread, h.uuid]
  unfold createProfileInner createProfileWithUuid
  simp only [bind_eq]
  rw [run_bind, run_ensureMayManageProfiles h]
  dsimp only
  rw [run_bind, run_checkProfileQuota h rfl rfl]
  dsimp only
  rw [run_bind]
  have hform : (checkProfileName name allow).run serviceMachine s =
      if permitted (name, allow) = true then (.ok (), s)
      else (.error (.aster reservedProfileName), s) := by
    unfold checkProfileName permitted
    rw [hvalid]
    cases allow <;> cases isReservedLinuxdoProfileName name <;> rfl
  rw [hform]
  by_cases hper : permitted (name, allow) = true
  · rw [if_pos hper, if_pos hper]
    dsimp only
    have hmojang : checkMojangName ctx ⟨userId, userRole, ctx.newUuid, name, .localProfile, allow,
        true⟩ = .ok () := by
      unfold checkMojangName ensureNameNotReservedByMojang
      rw [h.mojang]
      rfl
    rw [hmojang, ok_bind, run_bind, huuid]
    dsimp only
    rw [Option.isSome_none, rejectIf_false, ok_bind, run_bind, run_profileNameTaken]
    cases nameTaken s.db userId name with
    | true => rfl
    | false => rfl
  · rw [if_neg hper, if_neg hper]

/-- A profile of the user with this name is answered, and is the only new one. -/
def Creates (s : ServiceState) (userId : Nat) (name : String)
    (out : Except ServiceError MinecraftProfile × ServiceState) : Prop :=
  ∃ p, out.1 = .ok p ∧ p.name = name ∧ p.userId = userId ∧
    out.2.db.profiles.rows = s.db.profiles.rows ++ [p]

theorem creates_createProfileInner (h : MayCreate ctx userId userRole s) {name : String}
    (allow : Bool) (hfits : FitsProfileName name.toList) (hper : permitted (name, allow) = true)
    (hfree : nameTaken s.db userId name = false) :
    Creates s userId name
      ((createProfileInner ctx userId userRole name allow).run serviceMachine s) := by
  obtain ⟨s', hrun, hrows⟩ := run_profileCreate h hfree
  rw [run_createProfileInner h hfits.valid, if_pos hper, if_neg (by simp [hfree]), hrun]
  exact ⟨_, rfl, rfl, rfl, hrows⟩

theorem createProfileInner_fails (h : MayCreate ctx userId userRole s) {name : String}
    (allow : Bool) (hfits : FitsProfileName name.toList)
    (hno : permitted (name, allow) = false ∨ nameTaken s.db userId name = true) :
    ∃ e, ((createProfileInner ctx userId userRole name allow).run serviceMachine s).1 =
      .error e := by
  rw [run_createProfileInner h hfits.valid]
  cases hper : permitted (name, allow) with
  | false => exact ⟨_, rfl⟩
  | true =>
    have htaken : nameTaken s.db userId name = true := by
      rcases hno with hno | htaken
      · rw [hper] at hno
        cases hno
      · exact htaken
    rw [if_pos rfl, if_pos htaken]
    exact ⟨_, rfl⟩

/-! ## The candidates -/

/-- What the search among the candidates is after. -/
def usable (db : Db) (userId : Nat) (c : String × Bool) : Bool :=
  permitted c && !nameTaken db userId c.1

/-- The number that is tried first with success. -/
def firstFreeNumber (db : Db) (userId : Nat) (name : String) : Option Nat :=
  (List.range' 1 99).find? fun k => !nameTaken db userId (suffixedName name k)

/-- This number is free, and all before it are taken. -/
structure FirstFree (db : Db) (userId : Nat) (name : String) (k : Nat) : Prop where
  range : 1 ≤ k ∧ k ≤ 99
  free : nameTaken db userId (suffixedName name k) = false
  before : ∀ j, 1 ≤ j → j < k → nameTaken db userId (suffixedName name j) = true

theorem firstFreeNumber_eq_some {db : Db} {name : String} {k : Nat} :
    firstFreeNumber db userId name = some k ↔ FirstFree db userId name k := by
  unfold firstFreeNumber
  rw [List.find?_range'_eq_some]
  constructor
  · rintro ⟨hfree, hmem, hbefore⟩
    rw [List.mem_range'_1] at hmem
    exact ⟨by omega, by simpa using hfree, fun j hj hlt => by simpa using hbefore j hj hlt⟩
  · intro h
    have hrange := h.range
    exact ⟨by simp [h.free], List.mem_range'_1.mpr (by omega),
      fun j hj hlt => by simp [h.before j hj hlt]⟩

theorem firstFreeNumber_eq_none {db : Db} {name : String}
    (h : firstFreeNumber db userId name = none) {k : Nat} (hk : 1 ≤ k ∧ k ≤ 99) :
    nameTaken db userId (suffixedName name k) = true := by
  have hall := List.find?_eq_none.mp h k (List.mem_range'_1.mpr (by omega))
  simpa using hall

/-- A candidate can be used as it is. -/
theorem run_createFromCandidates_some {names : List (String × Bool)} {c : String × Bool}
    (hfind : names.find? (usable s.db userId) = some c) :
    (createFromCandidates ctx userId userRole names).run serviceMachine s =
      (createProfileInner ctx userId userRole c.1 c.2).run serviceMachine s := by
  unfold createFromCandidates
  cases hlast : names.getLast? with
  | none =>
    rw [List.getLast?_eq_none_iff.mp hlast] at hfind
    cases hfind
  | some last =>
    dsimp only
    have hfound : (names.find? fun c => permitted c && !nameTaken s.db userId c.1) = some c :=
      hfind
    rw [bind_eq, run_bind, run_firstFreeCandidate, hfound]

/-- The last one gets a number. -/
theorem run_createFromCandidates_none {names : List (String × Bool)} {last : String × Bool}
    (hlast : names.getLast? = some last) (hfind : names.find? (usable s.db userId) = none) :
    (createFromCandidates ctx userId userRole names).run serviceMachine s =
      (createProfileInner ctx userId userRole
        (((firstFreeNumber s.db userId last.1).map (suffixedName last.1)).getD
          (suffixedName last.1 99)) last.2).run serviceMachine s := by
  unfold createFromCandidates
  rw [hlast]
  dsimp only
  have hfound : (names.find? fun c => permitted c && !nameTaken s.db userId c.1) = none := hfind
  rw [bind_eq, run_bind, run_firstFreeCandidate, hfound]
  dsimp only
  rw [bind_eq, run_bind, run_firstFreeSuffix]
  rfl

end Runs

/-! ## Which name it becomes -/

section Outcome

variable {ctx : ProfileContext} {userId : Nat} {userRole : UserRole} {s : ServiceState}
  {external : String} {fallback : Option String}

/-- The fallback name differs from the provider's name by more than capitals. -/
def OwnFallback (external : String) (fallback : Option String) (name : String) : Prop :=
  fallback.bind sanitizeExternalUsername = some name ∧
    ∀ e, sanitizeExternalUsername external = some e → toAsciiLowercase e ≠ toAsciiLowercase name

/-- The name that is numbered: the fallback name, or the provider's name if there is
no fallback name beside it. -/
def NumberedBase (external : String) (fallback : Option String) (base : String) : Prop :=
  OwnFallback external fallback base ∨
    (¬ ∃ name, OwnFallback external fallback name) ∧ sanitizeExternalUsername external = some base

/-- The names the user may get. -/
inductive Offered (external : String) (fallback : Option String) : String → Prop
  | external {name : String} (hname : sanitizeExternalUsername external = some name)
      (hreserved : isReservedLinuxdoProfileName name = false) : Offered external fallback name
  | fallback {name : String} (hname : fallback.bind sanitizeExternalUsername = some name) :
      Offered external fallback name
  | numbered {base : String} {k : Nat} (hbase : NumberedBase external fallback base)
      (hk : 1 ≤ k ∧ k ≤ 99) : Offered external fallback (suffixedName base k)

/-- A fallback name of its own comes last, with permission. -/
theorem names_of_own {name : String} (h : OwnFallback external fallback name) :
    externalProfileNames external fallback =
      ((sanitizeExternalUsername external).map fun e => (e, false)).toList ++ [(name, true)] := by
  obtain ⟨hname, hdiffers⟩ := h
  unfold externalProfileNames
  rw [hname]
  cases hext : sanitizeExternalUsername external with
  | none => rfl
  | some e => simp [hdiffers e hext]

/-- Otherwise there is only the provider's name, without permission. -/
theorem names_of_no_own (h : ¬ ∃ name, OwnFallback external fallback name) :
    externalProfileNames external fallback =
      ((sanitizeExternalUsername external).map fun e => (e, false)).toList := by
  unfold externalProfileNames
  cases hfall : fallback.bind sanitizeExternalUsername with
  | none => cases sanitizeExternalUsername external <;> rfl
  | some name =>
    cases hext : sanitizeExternalUsername external with
    | none => exact absurd ⟨name, hfall, fun e he => by rw [hext] at he; cases he⟩ h
    | some e =>
      have hsame : toAsciiLowercase e = toAsciiLowercase name := by
        by_contra hne
        refine h ⟨name, hfall, fun e' he' => ?_⟩
        rw [hext] at he'
        cases he'
        exact hne
      simp [hsame]

theorem fallback_fits {name : String}
    (h : fallback.bind sanitizeExternalUsername = some name) : FitsProfileName name.toList := by
  obtain ⟨given, -, hname⟩ := Option.bind_eq_some_iff.mp h
  exact sanitized_fits hname

/-- **Every name that is offered is a profile name.** -/
theorem Offered.fits {name : String} (h : Offered external fallback name) :
    FitsProfileName name.toList := by
  cases h with
  | external hname _ => exact sanitized_fits hname
  | fallback hname => exact fallback_fits hname
  | numbered hbase hk =>
    rcases hbase with hown | ⟨-, hname⟩
    · exact suffixedName_fits (fallback_fits hown.1) hk
    · exact suffixedName_fits (sanitized_fits hname) hk

/-- The first free name among those that are tried is permitted. -/
inductive FindsPermitted (db : Db) (userId : Nat) (external : String)
    (fallback : Option String) : Prop
  | own {name : String} (h : OwnFallback external fallback name)
  | asItIs {e : String} (h : sanitizeExternalUsername external = some e)
      (hreserved : isReservedLinuxdoProfileName e = false)
      (hfree : nameTaken db userId e = false)
  | numbered {e : String} {k : Nat} (h : sanitizeExternalUsername external = some e)
      (hk : FirstFree db userId e k)
      (hreserved : isReservedLinuxdoProfileName (suffixedName e k) = false)

/-- The profile that is created. -/
structure Made (s : ServiceState) (userId : Nat) (external : String) (fallback : Option String)
    (out : Except ServiceError MinecraftProfile × ServiceState) (name : String) : Prop where
  creates : Creates s userId name out
  offered : Offered external fallback name
  free : nameTaken s.db userId name = false

/-- With a fallback name of its own only a lack of free names stops the creation. -/
theorem outcome_of_own (h : MayCreate ctx userId userRole s) {own : String}
    (hown : OwnFallback external fallback own)
    {out : Except ServiceError MinecraftProfile × ServiceState}
    (hout : (createProfileForExternalAuth ctx userId userRole external fallback).run
      serviceMachine s = out) :
    (∃ name, Made s userId external fallback out name) ∨
      ((∃ e, out.1 = .error e) ∧
        ∀ name, Offered external fallback name → nameTaken s.db userId name = true) := by
  have hnames := names_of_own hown
  unfold createProfileForExternalAuth at hout
  cases hfind : (externalProfileNames external fallback).find? (usable s.db userId) with
  | some c =>
    obtain ⟨name, allow⟩ := c
    have husable := List.find?_some hfind
    obtain ⟨hper, hfree⟩ := Bool.and_eq_true_iff.mp husable
    have hfree : nameTaken s.db userId name = false := by simpa using hfree
    have hmem := List.mem_of_find?_eq_some hfind
    have hoffered : Offered external fallback name := by
      rw [hnames] at hmem
      rcases List.mem_append.mp hmem with hmem | hmem
      · obtain ⟨e, hext, heq⟩ := Option.map_eq_some_iff.mp (Option.mem_toList.mp hmem)
        cases heq
        exact .external hext (by simpa [permitted] using hper)
      · cases List.mem_singleton.mp hmem
        exact .fallback hown.1
    rw [run_createFromCandidates_some hfind] at hout
    have hcreates := creates_createProfileInner h _ hoffered.fits hper hfree
    rw [hout] at hcreates
    exact Or.inl ⟨name, hcreates, hoffered, hfree⟩
  | none =>
    have hlast : (externalProfileNames external fallback).getLast? = some (own, true) := by
      rw [hnames, List.getLast?_concat]
    rw [run_createFromCandidates_none hlast hfind] at hout
    cases hnumber : firstFreeNumber s.db userId own with
    | some k =>
      rw [hnumber] at hout
      have hfirst := firstFreeNumber_eq_some.mp hnumber
      have hoffered : Offered external fallback (suffixedName own k) :=
        .numbered (Or.inl hown) hfirst.range
      have hcreates := creates_createProfileInner h true hoffered.fits rfl hfirst.free
      exact Or.inl ⟨_, hout ▸ hcreates, hoffered, hfirst.free⟩
    | none =>
      rw [hnumber] at hout
      have hall : ∀ k, 1 ≤ k ∧ k ≤ 99 → nameTaken s.db userId (suffixedName own k) = true :=
        fun _ => firstFreeNumber_eq_none hnumber
      have hunusable := List.find?_eq_none.mp hfind
      rw [hnames] at hunusable
      have hfails := createProfileInner_fails h true
        (suffixedName_fits (fallback_fits hown.1) (k := 99) (by decide))
        (Or.inr (hall 99 (by decide)))
      refine Or.inr ⟨hout ▸ hfails, fun name hoffered => ?_⟩
      cases hoffered with
      | external hext hreserved =>
        have hno := hunusable (name, false) (by simp [hext])
        simpa [usable, permitted, hreserved] using hno
      | fallback hname =>
        rw [hown.1] at hname
        cases hname
        have hno := hunusable (own, true) (by simp)
        simpa [usable, permitted] using hno
      | numbered hbase hk =>
        rcases hbase with hbase | ⟨hnone, -⟩
        · have hsame := hown.1.symm.trans hbase.1
          cases hsame
          exact hall _ hk
        · exact absurd ⟨own, hown⟩ hnone

/-- Without one, the first free name has to be permitted by itself. -/
theorem outcome_of_no_own (h : MayCreate ctx userId userRole s)
    (hnone : ¬ ∃ name, OwnFallback external fallback name)
    {out : Except ServiceError MinecraftProfile × ServiceState}
    (hout : (createProfileForExternalAuth ctx userId userRole external fallback).run
      serviceMachine s = out) :
    (∃ name, Made s userId external fallback out name) ∧
        FindsPermitted s.db userId external fallback ∨
      (∃ e, out.1 = .error e) ∧ ¬ FindsPermitted s.db userId external fallback := by
  have hnames := names_of_no_own hnone
  unfold createProfileForExternalAuth at hout
  cases hext : sanitizeExternalUsername external with
  | none =>
    rw [hext] at hnames
    rw [hnames] at hout
    refine Or.inr ⟨⟨_, congrArg Prod.fst hout.symm⟩, fun hfinds => ?_⟩
    cases hfinds with
    | own hown => exact hnone ⟨_, hown⟩
    | asItIs he _ _ => cases hext.symm.trans he
    | numbered he _ _ => cases hext.symm.trans he
  | some e =>
    rw [hext] at hnames
    change externalProfileNames external fallback = [(e, false)] at hnames
    rw [hnames] at hout
    have hfits := sanitized_fits hext
    have hbase : NumberedBase external fallback e := Or.inr ⟨hnone, hext⟩
    cases husable : usable s.db userId (e, false) with
    | true =>
      obtain ⟨hper, hfree⟩ := Bool.and_eq_true_iff.mp husable
      have hfree : nameTaken s.db userId e = false := by simpa using hfree
      have hreserved : isReservedLinuxdoProfileName e = false := by simpa [permitted] using hper
      have hfind : [(e, false)].find? (usable s.db userId) = some (e, false) :=
        List.find?_cons_of_pos husable
      rw [run_createFromCandidates_some hfind] at hout
      have hcreates := creates_createProfileInner h _ hfits hper hfree
      exact Or.inl ⟨⟨e, hout ▸ hcreates, .external hext hreserved, hfree⟩,
        .asItIs hext hreserved hfree⟩
    | false =>
      have hfind : [(e, false)].find? (usable s.db userId) = none := by
        rw [List.find?_cons_of_neg (by simp [husable]), List.find?_nil]
      have hlast : [(e, false)].getLast? = some (e, false) := rfl
      rw [run_createFromCandidates_none hlast hfind] at hout
      have hasItIs : ¬ (isReservedLinuxdoProfileName e = false ∧
          nameTaken s.db userId e = false) := by
        rintro ⟨hreserved, hfree⟩
        simp [usable, permitted, hreserved, hfree] at husable
      cases hnumber : firstFreeNumber s.db userId e with
      | some k =>
        have hfirst := firstFreeNumber_eq_some.mp hnumber
        rw [hnumber] at hout
        cases hreserved : isReservedLinuxdoProfileName (suffixedName e k) with
        | false =>
          have hcreates := creates_createProfileInner h false
            (suffixedName_fits hfits hfirst.range) (by simp [permitted, hreserved]) hfirst.free
          exact Or.inl ⟨⟨_, hout ▸ hcreates, .numbered hbase hfirst.range, hfirst.free⟩,
            .numbered hext hfirst hreserved⟩
        | true =>
          have hfails := createProfileInner_fails h false
            (suffixedName_fits hfits hfirst.range) (Or.inl (by simp [permitted, hreserved]))
          refine Or.inr ⟨hout ▸ hfails, fun hfinds => ?_⟩
          cases hfinds with
          | own hown => exact hnone ⟨_, hown⟩
          | asItIs he hno hfree =>
            cases hext.symm.trans he
            exact hasItIs ⟨hno, hfree⟩
          | numbered he hk hno =>
            cases hext.symm.trans he
            cases hnumber.symm.trans (firstFreeNumber_eq_some.mpr hk)
            rw [hreserved] at hno
            cases hno
      | none =>
        rw [hnumber] at hout
        have hfails := createProfileInner_fails h false
          (suffixedName_fits hfits (k := 99) (by decide))
          (Or.inr (firstFreeNumber_eq_none hnumber (k := 99) (by decide)))
        refine Or.inr ⟨hout ▸ hfails, fun hfinds => ?_⟩
        cases hfinds with
        | own hown => exact hnone ⟨_, hown⟩
        | asItIs he hno hfree =>
          cases hext.symm.trans he
          exact hasItIs ⟨hno, hfree⟩
        | numbered he hk _ =>
          cases hext.symm.trans he
          cases hnumber.symm.trans (firstFreeNumber_eq_some.mpr hk)

/-- **When the automatic profile is created.**  For every name of the provider, every
fallback name and every state in which the user may create a profile: a profile that
is created has one of the offered names, which is a profile name and was free; and
while one of the offered names is free, a profile is created if and only if the first
free name of those that are tried is permitted. -/
theorem auto_profile_created_iff (ctx : ProfileContext) (userId : Nat) (userRole : UserRole)
    (s : ServiceState) (external : String) (fallback : Option String)
    (h : MayCreate ctx userId userRole s) :
    (∀ p s', (createProfileForExternalAuth ctx userId userRole external fallback).run
        serviceMachine s = (.ok p, s') →
      Offered external fallback p.name ∧ validProfileName p.name = true ∧
        nameTaken s.db userId p.name = false ∧ p.userId = userId ∧
        s'.db.profiles.rows = s.db.profiles.rows ++ [p]) ∧
    ((∃ name, Offered external fallback name ∧ nameTaken s.db userId name = false) →
      ((∃ p s', (createProfileForExternalAuth ctx userId userRole external fallback).run
          serviceMachine s = (.ok p, s')) ↔
        FindsPermitted s.db userId external fallback)) := by
  obtain ⟨out, hout⟩ : ∃ out, (createProfileForExternalAuth ctx userId userRole external
    fallback).run serviceMachine s = out := ⟨_, rfl⟩
  have hcases : (∃ name, Made s userId external fallback out name) ∧
        FindsPermitted s.db userId external fallback ∨
      (∃ e, out.1 = .error e) ∧
        ((∀ name, Offered external fallback name → nameTaken s.db userId name = true) ∨
          ¬ FindsPermitted s.db userId external fallback) := by
    by_cases hown : ∃ name, OwnFallback external fallback name
    · obtain ⟨own, hown⟩ := hown
      rcases outcome_of_own h hown hout with hmade | ⟨hfails, htaken⟩
      · exact Or.inl ⟨hmade, .own hown⟩
      · exact Or.inr ⟨hfails, Or.inl htaken⟩
    · rcases outcome_of_no_own h hown hout with hmade | ⟨hfails, hnot⟩
      · exact Or.inl hmade
      · exact Or.inr ⟨hfails, Or.inr hnot⟩
  rw [hout]
  rcases hcases with ⟨⟨name, ⟨p, hok, hname, huser, hrows⟩, hoffered, hfree⟩, hfinds⟩ |
    ⟨⟨e, herror⟩, hwhy⟩
  · have hpair : out = (.ok p, out.2) := by rw [← hok]
    refine ⟨fun q s' hq => ?_, fun _ => ⟨fun _ => hfinds, fun _ => ⟨p, out.2, hpair⟩⟩⟩
    rw [hq] at hok hrows
    cases hok
    subst hname
    exact ⟨hoffered, hoffered.fits.valid, hfree, huser, hrows⟩
  · have hnever : ∀ p s', out ≠ (.ok p, s') := by
      intro p s' heq
      rw [heq] at herror
      cases herror
    refine ⟨fun p s' heq => absurd heq (hnever p s'), ?_⟩
    rintro ⟨name, hoffered, hfree⟩
    refine ⟨fun ⟨p, s', heq⟩ => absurd heq (hnever p s'), fun hfinds => ?_⟩
    rcases hwhy with htaken | hnot
    · rw [htaken name hoffered] at hfree
      cases hfree
    · exact absurd hfinds hnot

end Outcome

/-! ## Two first logins -/

/-- The account of the LinuxDO user 123 after the first login. -/
def linuxdoNewcomer : ServiceState where
  db :=
    { users := ⟨[⟨1, "u", "linuxdo_123", none, "pw", .user, .active, false, 1, none⟩], 2,
        by decide, by decide⟩
      profiles := .empty
      tokens := .empty
      bans := .empty
      profileTextures := []
      forwardServers := []
      now := 10 }
  tokenCache := fun _ => none
  joinCache := fun _ => none
  forwardCache := none
  nameSummaries := fun _ => none

theorem mayCreate_newcomer : MayCreate plainProfile 1 .user linuxdoNewcomer where
  account := rfl
  unbanned := rfl
  quota := Or.inr (by decide)
  mojang := rfl
  uuid := rfl

/-- Who is called `neo` there gets a profile. -/
theorem neo_gets_profile :
    ∃ p s', (createProfileForExternalAuth plainProfile 1 .user "neo" (some "linuxdo_123")).run
      serviceMachine linuxdoNewcomer = (.ok p, s') := by
  have hneo : sanitizeExternalUsername "neo" = some "neo" := by decide +kernel
  have hfree : nameTaken linuxdoNewcomer.db 1 "neo" = false := by decide +kernel
  have hreserved : isReservedLinuxdoProfileName "neo" = false := by decide
  exact ((auto_profile_created_iff plainProfile 1 .user linuxdoNewcomer "neo"
    (some "linuxdo_123") mayCreate_newcomer).2 ⟨"neo", .external hneo hreserved, hfree⟩).mpr
      (.asItIs hneo hreserved hfree)

/-- **Who is called by the fallback name gets none**: the name is left out of the
list the second time, and with it the permission. -/
theorem fallback_name_refused :
    ¬ ∀ (ctx : ProfileContext) (userId : Nat) (userRole : UserRole) (s : ServiceState)
      (external : String) (fallback : Option String), MayCreate ctx userId userRole s →
      (∃ name, Offered external fallback name ∧ nameTaken s.db userId name = false) →
      ∃ p s', (createProfileForExternalAuth ctx userId userRole external fallback).run
        serviceMachine s = (.ok p, s') := by
  intro hall
  have hfallback : (some "linuxdo_123").bind sanitizeExternalUsername = some "linuxdo_123" := by
    decide +kernel
  obtain ⟨p, s', hok⟩ := hall plainProfile 1 .user linuxdoNewcomer "linuxdo_123"
    (some "linuxdo_123") mayCreate_newcomer ⟨_, .fallback hfallback, by decide +kernel⟩
  have hrun : ((createProfileForExternalAuth plainProfile 1 .user "linuxdo_123"
      (some "linuxdo_123")).run serviceMachine linuxdoNewcomer).1 =
        .error (.aster reservedProfileName) := by
    decide +kernel
  rw [hok] at hrun
  cases hrun

end AsterYggdrasil.External
