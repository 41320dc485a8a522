import AsterYggdrasil.Ban.Service

/-!
# What the panel is told about a ban

`ban_info_at` turns a row into the record that the administrators see.  Its
`effective_status` is the stored status, except that a ban that is stored as
active and does not take effect at the moment of the question is reported as
expired.  A ban that has not started yet does not take effect either, so
"expired" is final only for bans that have started (`expired_is_final`).
-/

namespace AsterYggdrasil.Bans

/-- `UserBanInfo`. -/
structure UserBanInfo where
  id : Nat
  userId : Nat
  scopes : List UserBanScope
  status : UserBanStatus
  effectiveStatus : UserBanStatus
  effective : Bool
  reason : String
  publicReason : Option String
  adminNote : Option String
  createdByUserId : Option Nat
  startsAt : Nat
  expiresAt : Option Nat
  revokedAt : Option Nat
  revokedByUserId : Option Nat
  revokeNote : Option String
  createdAt : Nat
  updatedAt : Nat
  deriving DecidableEq, Repr

/-- `ban_info_at`. -/
def banInfoAt (ban : UserBanRow) (now : Nat) : UserBanInfo :=
  let effective := ban.isEffective now
  let effectiveStatus :=
    if ban.status = .active && !effective then .expired else ban.status
  { id := ban.id
    userId := ban.userId
    scopes := (normalizeScopes ban.scopes).toOption.getD []
    status := ban.status
    effectiveStatus := effectiveStatus
    effective := effective
    reason := ban.reason
    publicReason := ban.publicReason
    adminNote := ban.adminNote
    createdByUserId := ban.createdByUserId
    startsAt := ban.startsAt
    expiresAt := ban.expiresAt
    revokedAt := ban.revokedAt
    revokedByUserId := ban.revokedByUserId
    revokeNote := ban.revokeNote
    createdAt := ban.createdAt
    updatedAt := ban.updatedAt }

/-- What is effective at an instant, condition by condition. -/
theorem isEffective_iff {ban : UserBanRow} {now : Nat} :
    ban.isEffective now = true ↔
      ban.status = .active ∧ ban.revokedAt = none ∧ ban.startsAt ≤ now ∧
        ∀ e ∈ ban.expiresAt, now < e := by
  unfold UserBanRow.isEffective
  simp only [Bool.and_eq_true, decide_eq_true_eq, Option.isNone_iff_eq_none,
    Option.all_eq_true, Option.mem_def, and_assoc]

/-- A ban that has started and is effective later is effective until then. -/
theorem isEffective_of_later {ban : UserBanRow} {now later : Nat}
    (hstart : ban.startsAt ≤ now) (hlater : now ≤ later)
    (h : ban.isEffective later = true) : ban.isEffective now = true := by
  obtain ⟨hstatus, hrevoked, -, hexpires⟩ := isEffective_iff.mp h
  refine isEffective_iff.mpr ⟨hstatus, hrevoked, hstart, fun e he => ?_⟩
  have hlt := hexpires e he
  omega

/-- A ban that has started and is reported as expired is effective at no time
from then on. -/
theorem expired_is_final {ban : UserBanRow} {now : Nat} (hstart : ban.startsAt ≤ now)
    (h : (banInfoAt ban now).effectiveStatus = .expired) :
    ∀ t, now ≤ t → ban.isEffective t = false := by
  intro t ht
  by_contra heffective
  have hlater : ban.isEffective t = true := by simpa using heffective
  have hnow := isEffective_of_later hstart ht hlater
  have hactive := (isEffective_iff.mp hnow).1
  simp [banInfoAt, hnow, hactive] at h

end AsterYggdrasil.Bans
