import AsterYggdrasil.Yggdrasil.TokenHistory

/-!
# Pruning the oldest tokens

`issue_token_in_connection` inserts a token and revokes every active token of
the user beyond the first `max_active_tokens`, newest first.  The query that
decides what comes first orders by `issued_at` alone, so the database answers
tokens of one moment in any order (`IssuedDesc`).

Whatever the order, at most the allowed number stays active, no token that
stays is older than one that goes, and the report names what went
(`issue_prunes`).  The token just issued stays, for every order the database
may choose, exactly when fewer than `max_active_tokens` other active tokens of
the user were issued at or after it (`issue_keeps_newest_iff`).
-/

namespace AsterYggdrasil

open Interleave Relational Prog

/-! ## The order of the query -/

/-- What the database may answer to `ORDER BY issued_at DESC`: all rows, later
ones first, rows of one moment in any order. -/
structure IssuedDesc where
  order : List YggdrasilToken → List YggdrasilToken
  perm : ∀ l, (order l).Perm l
  sorted : ∀ l, (order l).Pairwise fun a b => b.issuedAt ≤ a.issuedAt

/-- One statement, with the order the database has chosen. -/
def DbStmt.execOrdered (o : IssuedDesc) : (i : DbStmt) → Db → i.Reply × Db
  | .tokenListActiveByIssuedDesc userId, db =>
      (o.order (db.tokens.select (YggdrasilToken.activeFor userId)), db)
  | i, db => i.exec db

/-- The database with the order it has chosen. -/
@[reducible] def orderedMachine (o : IssuedDesc) : Machine dbSignature where
  State := Db
  exec := DbStmt.execOrdered o

/-- The order the plain model of the database has settled on. -/
def asStored : IssuedDesc where
  order l := l.insertionSort fun a b => b.issuedAt ≤ a.issuedAt
  perm l := List.perm_insertionSort _ l
  sorted l := by
    have htotal : Std.Total fun a b : YggdrasilToken => b.issuedAt ≤ a.issuedAt :=
      ⟨fun a b => Nat.le_total b.issuedAt a.issuedAt⟩
    have htrans : IsTrans YggdrasilToken fun a b => b.issuedAt ≤ a.issuedAt :=
      ⟨fun a b c hab hbc => Nat.le_trans hbc hab⟩
    exact List.pairwise_insertionSort _ l

/-- The plain model is one of the databases that are meant here. -/
theorem execOrdered_asStored (i : DbStmt) (db : Db) :
    i.execOrdered asStored db = i.exec db := by
  cases i <;> rfl

/-- Of the tokens of one moment, the one with the smaller id first. -/
def olderIdFirst (a b : YggdrasilToken) : Prop :=
  b.issuedAt < a.issuedAt ∨ (a.issuedAt = b.issuedAt ∧ a.id ≤ b.id)

instance : DecidableRel olderIdFirst := fun a b =>
  inferInstanceAs (Decidable
    (b.issuedAt < a.issuedAt ∨ (a.issuedAt = b.issuedAt ∧ a.id ≤ b.id)))

theorem olderIdFirst_total : Std.Total olderIdFirst := by
  constructor
  intro a b
  unfold olderIdFirst
  omega

theorem olderIdFirst_trans : IsTrans YggdrasilToken olderIdFirst := by
  constructor
  intro a b c hab hbc
  unfold olderIdFirst at *
  omega

theorem olderIdFirst_sorted (l : List YggdrasilToken) :
    (l.insertionSort olderIdFirst).Pairwise olderIdFirst := by
  have := olderIdFirst_total
  have := olderIdFirst_trans
  exact List.pairwise_insertionSort olderIdFirst l

/-- The order in which a table scan meets the rows. -/
def byId : IssuedDesc where
  order l := l.insertionSort olderIdFirst
  perm l := List.perm_insertionSort olderIdFirst l
  sorted l := by
    refine (olderIdFirst_sorted l).imp ?_
    intro a b hab
    unfold olderIdFirst at hab
    omega

/-! ## What a call leaves behind -/

/-- The columns of the token a call inserts. -/
def IssueToken.columns (args : IssueToken) (now : Nat) : CreateYggdrasilToken where
  userId := args.userId
  accessTokenHash := args.accessTokenHash
  clientToken := args.clientToken
  selectedProfileId := args.selectedProfileId
  issuedAt := now
  expiresAt := now + args.tokenTtlDays * msPerDay
  userAgent := args.userAgent
  ipAddress := args.ipAddress

/-- The lifetime fits and ends within the calendar, the user and the profile exist,
and the hash is new. -/
structure CanIssue (args : IssueToken) (db : Db) : Prop where
  ttl : args.tokenTtlDays ≤ i64Max
  calendar : db.now + args.tokenTtlDays * msPerDay ≤ maxUtc
  foreignKeys : db.tokenForeignKeys (args.columns db.now) = true
  fresh : ∀ t ∈ db.tokens.rows, t.accessTokenHash ≠ args.accessTokenHash

/-- The row `t` of `db'` was revoked on the way from `db`. -/
def RevokedSince (db db' : Db) (t : YggdrasilToken) : Prop :=
  t ∈ db'.tokens.rows ∧ t.revokedAt.isSome ∧
    ∀ t₀ ∈ db.tokens.rows, t₀.accessTokenHash = t.accessTokenHash → t₀.revokedAt = none

/-- Everything but the survival of the new token: the bound, the order, the
report, and the tokens that are no business of the call. -/
structure Prunes (args : IssueToken) (db : Db) (pruned : List String) (db' : Db) :
    Prop where
  most : (db'.tokens.select (YggdrasilToken.activeFor args.userId)).length ≤
    args.maxActiveTokens
  newest : ∀ t ∈ db'.tokens.rows, t.activeFor args.userId = true →
    ∀ p, RevokedSince db db' p → p.issuedAt ≤ t.issuedAt
  reported : ∀ hash, hash ∈ pruned ↔ ∃ t, RevokedSince db db' t ∧ t.accessTokenHash = hash
  others : ∀ t, t.userId ≠ args.userId → (t ∈ db'.tokens.rows ↔ t ∈ db.tokens.rows)

/-- The token just issued is an active one. -/
def KeepsIssued (args : IssueToken) (issued : IssuedToken) (db' : Db) : Prop :=
  ∃ t ∈ db'.tokens.rows, t.id = issued.tokenId ∧
    t.accessTokenHash = args.accessTokenHash ∧ t.activeFor args.userId = true

/-! ## The run of a call -/

section Run

variable (o : IssuedDesc)

/-- The rows after the updates of a list of tokens. -/
def revokeIds (ids : List Nat) (now : Nat) (rows : List YggdrasilToken) :
    List YggdrasilToken :=
  rows.map fun t => if t.id ∈ ids then t.revoke now else t

theorem revokeIds_nil (now : Nat) (rows : List YggdrasilToken) :
    revokeIds [] now rows = rows := by
  simp [revokeIds]

theorem revokeIds_cons (id : Nat) (ids : List Nat) (now : Nat)
    (rows : List YggdrasilToken) :
    revokeIds ids now (rows.map fun t => if t.id = id then t.revoke now else t) =
      revokeIds (id :: ids) now rows := by
  simp only [revokeIds, List.map_map]
  congr 1
  funext t
  by_cases hid : t.id = id
  · simp [hid, YggdrasilToken.revoke]
  · simp [hid]

theorem mem_ids_revoked {t : YggdrasilToken} {rows : List YggdrasilToken} {id now : Nat}
    (h : t ∈ rows) :
    ∃ t' ∈ rows.map (fun t => if t.id = id then t.revoke now else t), t'.id = t.id := by
  refine ⟨_, List.mem_map_of_mem h, ?_⟩
  split <;> rfl

theorem revokeTokens_rows (db : Db) (id : Nat) :
    (db.revokeTokens fun r => r.id = id).tokens.rows =
      db.tokens.rows.map fun t => if t.id = id then t.revoke db.now else t := by
  simp [Db.revokeTokens, Db.modifyTokens, Table.modify]

/-- The loop revokes the tokens it is given, all at the present time. -/
theorem run_revokeAll {tokens : List YggdrasilToken} {db : Db}
    (h : ∀ t ∈ tokens, ∃ r ∈ db.tokens.rows, r.id = t.id) :
    (Prog.forEach tokens fun t => tokenSetRevoked t.id).Wp (orderedMachine o)
      (fun r db' => r = .ok () ∧ db'.now = db.now ∧
        db'.tokens.rows = revokeIds (tokens.map YggdrasilToken.id) db.now db.tokens.rows)
      db := by
  induction tokens generalizing db with
  | nil => exact ⟨rfl, rfl, (revokeIds_nil _ _).symm⟩
  | cons t tokens ih =>
      have hfound : (db.tokens.find? fun r => r.id = t.id).isSome = true := by
        obtain ⟨r, hr, hid⟩ := h t (List.mem_cons_self ..)
        simp only [Table.find?, List.find?_isSome]
        exact ⟨r, hr, by simpa using hid⟩
      have hfirst : (tokenSetRevoked t.id).run (orderedMachine o) db =
          (.ok (), db.revokeTokens fun r => r.id = t.id) := by
        simp only [tokenSetRevoked, sql, Prog.stmt, bind_eq, act_bind, ok_bind, run_act,
          DbStmt.execOrdered, DbStmt.exec, hfound, if_true]
        rfl
      have hrest : ∀ t' ∈ tokens, ∃ r ∈ (db.revokeTokens fun r => r.id = t.id).tokens.rows,
          r.id = t'.id := by
        intro t' ht'
        obtain ⟨r, hr, hid⟩ := h t' (List.mem_cons_of_mem _ ht')
        obtain ⟨r', hr', hid'⟩ : ∃ r' ∈ db.tokens.rows.map
            (fun r => if r.id = t.id then r.revoke db.now else r), r'.id = r.id :=
          mem_ids_revoked hr
        exact ⟨r', revokeTokens_rows db t.id ▸ hr', hid'.trans hid⟩
      refine wp_bind_of_run hfirst ((ih hrest).mono ?_)
      rintro r db' ⟨hr, hnow, hrows⟩
      refine ⟨hr, hnow, ?_⟩
      rw [hrows, List.map_cons, ← revokeIds_cons, revokeTokens_rows]
      rfl

/-- The row a call inserts. -/
def IssueToken.row (args : IssueToken) (db : Db) : YggdrasilToken :=
  Db.newToken db.tokens.seq (args.columns db.now)

/-- The rows right after the insert. -/
def IssueToken.rows (args : IssueToken) (db : Db) : List YggdrasilToken :=
  db.tokens.rows ++ [args.row db]

/-- The active tokens of the user, as the query lists them. -/
def IssueToken.listed (args : IssueToken) (db : Db) : List YggdrasilToken :=
  o.order ((args.rows db).filter (YggdrasilToken.activeFor args.userId))

/-- The tokens a call prunes. -/
def IssueToken.surplus (args : IssueToken) (db : Db) : List YggdrasilToken :=
  (args.listed o db).drop args.maxActiveTokens

variable {args : IssueToken} {db : Db}

/-- The insert is accepted. -/
theorem exec_insert (hcan : CanIssue args db) :
    ∃ tokens, db.tokens.nextId.2.insert? (args.row db) = some tokens ∧
      tokens.rows = args.rows db := by
  have haccepted : (∀ t ∈ db.tokens.nextId.2.rows, tokenSchema.clash t (args.row db) = false) ∧
      tokenSchema.ident (args.row db) < db.tokens.nextId.2.seq := by
    constructor
    · intro t ht
      have hlt : t.id < db.tokens.seq := db.tokens.fresh t ht
      have hhash := hcan.fresh t ht
      have hid : t.id ≠ db.tokens.seq := by omega
      simp [tokenSchema, IssueToken.row, Db.newToken, IssueToken.columns, hid, hhash]
    · exact Nat.lt_succ_self _
  unfold Table.insert?
  rw [dif_pos haccepted]
  exact ⟨_, rfl, rfl⟩

theorem listed_subset {t : YggdrasilToken} (ht : t ∈ args.listed o db) :
    t ∈ args.rows db ∧ t.activeFor args.userId = true :=
  List.mem_filter.mp ((o.perm _).mem_iff.mp ht)

/-- **The run of a call that can issue its token.** -/
theorem run_issue (hcan : CanIssue args db) :
    (issueTokenInConnection args).Wp (orderedMachine o)
      (fun r db' =>
        r = .ok (⟨db.tokens.seq, args.accessTokenHash⟩,
          (args.surplus o db).map (·.accessTokenHash)) ∧
        db'.tokens.rows =
          revokeIds ((args.surplus o db).map YggdrasilToken.id) db.now (args.rows db))
      db := by
  obtain ⟨tokens, hinsert, hrows⟩ := exec_insert hcan
  have hcreated : (tokenCreate (args.columns db.now)).run (orderedMachine o) db =
      (.ok (args.row db), { db with tokens := tokens }) := by
    have hkeys : Db.tokenForeignKeys { db with tokens := db.tokens.nextId.2 }
        (args.columns db.now) = true := hcan.foreignKeys
    have hinsert' : db.tokens.nextId.2.insert?
        (Db.newToken db.tokens.nextId.1 (args.columns db.now)) = some tokens := hinsert
    simp only [tokenCreate, sql, Prog.stmt, bind_eq, act_bind, ok_bind, run_act,
      DbStmt.execOrdered, DbStmt.exec, hkeys, if_true, hinsert']
    rfl
  have hsurplus : ∀ t ∈ args.surplus o db,
      ∃ r ∈ ({ db with tokens := tokens } : Db).tokens.rows, r.id = t.id := by
    intro t ht
    exact ⟨t, hrows ▸ (listed_subset o (List.mem_of_mem_drop ht)).1, rfl⟩
  have hlisted : o.order (tokens.select (YggdrasilToken.activeFor args.userId)) =
      args.listed o db := by
    rw [Table.select, hrows]
    rfl
  have hnot : ¬ i64Max < args.tokenTtlDays := Nat.not_lt.mpr hcan.ttl
  have hends : ¬ maxUtc < db.now + args.tokenTtlDays * msPerDay := Nat.not_lt.mpr hcan.calendar
  have hclock : (sql .now).run (orderedMachine o) db = (.ok db.now, db) := rfl
  have haccepted : (Prog.rejectIf False (.numberOutOfRange "yggdrasil token ttl days") :
      DbProg Unit).run (orderedMachine o) db = (.ok (), db) := rfl
  have hwithin : (Prog.rejectIf False .panicked : DbProg Unit).run (orderedMachine o) db =
      (.ok (), db) := rfl
  unfold issueTokenInConnection
  refine wp_bind_of_run hclock ?_
  simp only [hnot, hends]
  refine wp_bind_of_run haccepted ?_
  refine wp_bind_of_run hwithin ?_
  refine wp_bind_of_run hcreated ?_
  unfold pruneOldestForUser
  refine wp_bind.mpr ?_
  have hread : (sql (.tokenListActiveByIssuedDesc args.userId)).run (orderedMachine o) { db with tokens := tokens } =
        (.ok (args.listed o db), { db with tokens := tokens }) := by
    simp only [sql, Prog.stmt, run_act, DbStmt.execOrdered, run_ok, hlisted]
  refine wp_bind_of_run hread ?_
  refine wp_bind.mpr ((run_revokeAll o hsurplus).mono ?_)
  rintro r db' ⟨rfl, hnow, hafter⟩
  exact ⟨rfl, hafter.trans (by rw [hrows])⟩

end Run

/-! ## What is pruned -/

section Surplus

variable {o : IssuedDesc} {args : IssueToken} {db db' : Db}

theorem mem_rows {t : YggdrasilToken} (ht : t ∈ args.rows db) :
    t ∈ db.tokens.rows ∨ t = args.row db := by
  rcases List.mem_append.mp ht with ht | ht
  · exact Or.inl ht
  · exact Or.inr (List.mem_singleton.mp ht)

theorem row_mem (args : IssueToken) (db : Db) : args.row db ∈ args.rows db :=
  List.mem_append_right _ (List.mem_singleton.mpr rfl)

theorem row_active (args : IssueToken) (db : Db) :
    (args.row db).activeFor args.userId = true := by
  simp [IssueToken.row, Db.newToken, IssueToken.columns, YggdrasilToken.activeFor,
    YggdrasilToken.unrevoked]

/-- The new id is larger than every other. -/
theorem id_le_row {t : YggdrasilToken} (ht : t ∈ args.rows db) :
    t = args.row db ∨ t.id < (args.row db).id := by
  rcases mem_rows ht with ht | rfl
  · exact Or.inr (db.tokens.fresh t ht)
  · exact Or.inl rfl

theorem rows_ids {a b : YggdrasilToken} (ha : a ∈ args.rows db) (hb : b ∈ args.rows db)
    (h : a.id = b.id) : a = b := by
  rcases mem_rows ha with ha' | rfl
  · rcases mem_rows hb with hb' | rfl
    · exact db.tokens.eq_of_ident ha' hb' h
    · have hlt : a.id < (args.row db).id := db.tokens.fresh a ha'
      omega
  · rcases id_le_row hb with rfl | hlt
    · rfl
    · omega

theorem rows_hashes (hcan : CanIssue args db) {a b : YggdrasilToken}
    (ha : a ∈ args.rows db) (hb : b ∈ args.rows db)
    (h : a.accessTokenHash = b.accessTokenHash) : a = b := by
  rcases mem_rows ha with ha' | rfl
  · rcases mem_rows hb with hb' | rfl
    · exact row_unique ha' hb' h
    · exact absurd h (hcan.fresh a ha')
  · rcases mem_rows hb with hb' | rfl
    · exact absurd h.symm (hcan.fresh b hb')
    · rfl

theorem surplus_listed {t : YggdrasilToken} (ht : t ∈ args.surplus o db) :
    t ∈ args.listed o db := List.mem_of_mem_drop ht

theorem surplus_rows {t : YggdrasilToken} (ht : t ∈ args.surplus o db) :
    t ∈ args.rows db ∧ t.activeFor args.userId = true :=
  listed_subset o (surplus_listed ht)

theorem activeFor_iff {t : YggdrasilToken} {userId : Nat} :
    t.activeFor userId = true ↔ t.userId = userId ∧ t.revokedAt = none := by
  simp [YggdrasilToken.activeFor, YggdrasilToken.unrevoked]

/-- A row is updated by id exactly when it is one of the surplus. -/
theorem mem_surplus_ids {t : YggdrasilToken} (ht : t ∈ args.rows db) :
    t.id ∈ (args.surplus o db).map YggdrasilToken.id ↔ t ∈ args.surplus o db := by
  constructor
  · intro h
    obtain ⟨q, hq, hid⟩ := List.mem_map.mp h
    rwa [← rows_ids (surplus_rows hq).1 ht hid]
  · exact fun h => List.mem_map_of_mem h

/-- The rows a call leaves behind: the surplus revoked, the rest as it was. -/
def IssueToken.Leaves (o : IssuedDesc) (args : IssueToken) (db db' : Db) : Prop :=
  db'.tokens.rows = revokeIds ((args.surplus o db).map YggdrasilToken.id) db.now (args.rows db)

theorem IssueToken.Leaves.mem_iff (h : args.Leaves o db db') {t : YggdrasilToken} :
    t ∈ db'.tokens.rows ↔
      (t ∈ args.rows db ∧ t ∉ args.surplus o db) ∨
        ∃ q ∈ args.surplus o db, t = q.revoke db.now := by
  rw [h, revokeIds, List.mem_map]
  constructor
  · rintro ⟨q, hq, rfl⟩
    by_cases hin : q ∈ args.surplus o db
    · rw [if_pos ((mem_surplus_ids hq).mpr hin)]
      exact Or.inr ⟨q, hin, rfl⟩
    · rw [if_neg fun h => hin ((mem_surplus_ids hq).mp h)]
      exact Or.inl ⟨hq, hin⟩
  · rintro (⟨ht, hnot⟩ | ⟨q, hq, rfl⟩)
    · refine ⟨t, ht, ?_⟩
      rw [if_neg fun h => hnot ((mem_surplus_ids ht).mp h)]
    · have hrow := (surplus_rows hq).1
      refine ⟨q, hrow, ?_⟩
      rw [if_pos ((mem_surplus_ids hrow).mpr hq)]

/-- What the call has revoked is the surplus. -/
theorem IssueToken.Leaves.revokedSince_iff (h : args.Leaves o db db')
    (hcan : CanIssue args db) {t : YggdrasilToken} :
    RevokedSince db db' t ↔ ∃ q ∈ args.surplus o db, t = q.revoke db.now := by
  constructor
  · rintro ⟨ht, hrevoked, hbefore⟩
    refine (h.mem_iff.mp ht).resolve_left ?_
    rintro ⟨hrow, -⟩
    rcases mem_rows hrow with hold | rfl
    · rw [hbefore t hold rfl] at hrevoked
      cases hrevoked
    · cases hrevoked
  · rintro ⟨q, hq, rfl⟩
    refine ⟨h.mem_iff.mpr (Or.inr ⟨q, hq, rfl⟩), rfl, fun t₀ ht₀ hhash => ?_⟩
    obtain ⟨hrow, hactive⟩ := surplus_rows hq
    have hsame : t₀ = q := rows_hashes hcan (List.mem_append_left _ ht₀) hrow hhash
    rw [hsame]
    exact (activeFor_iff.mp hactive).2

/-- The active tokens after the call come from the first ones of the list. -/
theorem IssueToken.Leaves.active (h : args.Leaves o db db') {t : YggdrasilToken}
    (ht : t ∈ db'.tokens.rows) (hactive : t.activeFor args.userId = true) :
    t ∈ args.rows db ∧ t ∉ args.surplus o db := by
  rcases h.mem_iff.mp ht with hkept | ⟨q, -, rfl⟩
  · exact hkept
  · have hnone := (activeFor_iff.mp hactive).2
    cases hnone

theorem mem_listed {t : YggdrasilToken} (ht : t ∈ args.rows db)
    (hactive : t.activeFor args.userId = true) : t ∈ args.listed o db :=
  (o.perm _).mem_iff.mpr (List.mem_filter.mpr ⟨ht, hactive⟩)

theorem mem_take_listed {t : YggdrasilToken} (ht : t ∈ args.listed o db)
    (hnot : t ∉ args.surplus o db) : t ∈ (args.listed o db).take args.maxActiveTokens := by
  have hsplit := List.take_append_drop args.maxActiveTokens (args.listed o db)
  rw [← hsplit] at ht
  exact (List.mem_append.mp ht).resolve_right hnot

/-- No token of the surplus is newer than one that stays. -/
theorem surplus_older {t q : YggdrasilToken}
    (ht : t ∈ (args.listed o db).take args.maxActiveTokens) (hq : q ∈ args.surplus o db) :
    q.issuedAt ≤ t.issuedAt := by
  have hsorted : (args.listed o db).Pairwise fun a b => b.issuedAt ≤ a.issuedAt := o.sorted _
  rw [← List.take_append_drop args.maxActiveTokens (args.listed o db)] at hsorted
  exact (List.pairwise_append.mp hsorted).2.2 t ht q hq

/-- At most the allowed number stays. -/
theorem IssueToken.Leaves.length_active (h : args.Leaves o db db') :
    (db'.tokens.select (YggdrasilToken.activeFor args.userId)).length ≤
      args.maxActiveTokens := by
  -- an active row after the call is one of the list that is not surplus
  let stays : YggdrasilToken → Bool := fun t => decide (t ∉ args.surplus o db)
  have hrow : ∀ t ∈ args.rows db,
      (if t.id ∈ (args.surplus o db).map YggdrasilToken.id then t.revoke db.now
        else t).activeFor args.userId = (t.activeFor args.userId && stays t) := by
    intro t ht
    by_cases hin : t ∈ args.surplus o db
    · rw [if_pos ((mem_surplus_ids ht).mpr hin)]
      simp [YggdrasilToken.activeFor, YggdrasilToken.unrevoked, YggdrasilToken.revoke,
        stays, hin]
    · rw [if_neg fun h => hin ((mem_surplus_ids ht).mp h)]
      simp [stays, hin]
  have hcount : (db'.tokens.select (YggdrasilToken.activeFor args.userId)).length =
      (args.listed o db).countP stays := by
    calc (db'.tokens.select (YggdrasilToken.activeFor args.userId)).length
        = db'.tokens.rows.countP (YggdrasilToken.activeFor args.userId) := by
          rw [Table.select, List.countP_eq_length_filter]
      _ = (args.rows db).countP fun t => t.activeFor args.userId && stays t := by
          rw [h, revokeIds, List.countP_map]
          exact List.countP_congr fun t ht => by rw [← hrow t ht]; rfl
      _ = ((args.rows db).filter (YggdrasilToken.activeFor args.userId)).countP stays := by
          rw [List.countP_filter]
          exact List.countP_congr fun t _ => by rw [Bool.and_comm]
      _ = (args.listed o db).countP stays := ((o.perm _).countP_eq stays).symm
  rw [hcount, ← List.take_append_drop args.maxActiveTokens (args.listed o db),
    List.countP_append]
  have hnone : ((args.listed o db).drop args.maxActiveTokens).countP stays = 0 :=
    List.countP_eq_zero.mpr fun t ht => by
      have hin : t ∈ args.surplus o db := ht
      simp [stays, hin]
  have hle := List.countP_le_length (p := stays)
    (l := (args.listed o db).take args.maxActiveTokens)
  rw [List.length_take] at hle
  omega

/-- **Everything but the survival of the new token holds whatever the order.** -/
theorem IssueToken.Leaves.prunes (h : args.Leaves o db db') (hcan : CanIssue args db) :
    Prunes args db ((args.surplus o db).map (·.accessTokenHash)) db' := by
  constructor
  · exact h.length_active
  · intro t ht hactive p hp
    obtain ⟨hrow, hnot⟩ := h.active ht hactive
    obtain ⟨q, hq, rfl⟩ := (h.revokedSince_iff hcan).mp hp
    have hle := surplus_older (mem_take_listed (mem_listed hrow hactive) hnot) hq
    exact hle
  · intro hash
    constructor
    · intro hmem
      obtain ⟨q, hq, rfl⟩ := List.mem_map.mp hmem
      exact ⟨q.revoke db.now, (h.revokedSince_iff hcan).mpr ⟨q, hq, rfl⟩, rfl⟩
    · rintro ⟨t, ht, rfl⟩
      obtain ⟨q, hq, rfl⟩ := (h.revokedSince_iff hcan).mp ht
      exact List.mem_map.mpr ⟨q, hq, rfl⟩
  · intro t huser
    constructor
    · intro ht
      rcases h.mem_iff.mp ht with ⟨hrow, -⟩ | ⟨q, hq, rfl⟩
      · rcases mem_rows hrow with hold | rfl
        · exact hold
        · exact absurd rfl huser
      · have howner := (activeFor_iff.mp (surplus_rows hq).2).1
        exact absurd howner huser
    · intro hold
      refine h.mem_iff.mpr (Or.inl ⟨List.mem_append_left _ hold, fun hin => ?_⟩)
      exact huser (activeFor_iff.mp (surplus_rows hin).2).1

/-- The new token survives when it is not surplus. -/
theorem IssueToken.Leaves.keeps_iff (h : args.Leaves o db db') :
    KeepsIssued args ⟨db.tokens.seq, args.accessTokenHash⟩ db' ↔
      args.row db ∉ args.surplus o db := by
  constructor
  · rintro ⟨t, ht, hid, -, hactive⟩
    obtain ⟨hrow, hnot⟩ := h.active ht hactive
    rwa [rows_ids hrow (row_mem args db) hid] at hnot
  · intro hnot
    refine ⟨args.row db, h.mem_iff.mpr (Or.inl ⟨row_mem args db, hnot⟩), rfl, rfl, ?_⟩
    exact row_active args db

end Surplus

/-! ## When the new token survives -/

section Survival

variable {args : IssueToken} {db : Db}

/-- The user's active tokens that were issued at or after the present. -/
def IssueToken.rivals (args : IssueToken) (db : Db) : Nat :=
  db.tokens.rows.countP fun t => t.activeFor args.userId && decide (db.now ≤ t.issuedAt)

/-- In every list the new token is one of `rivals + 1` tokens that are not
older than it. -/
theorem countP_listed (o : IssuedDesc) (args : IssueToken) (db : Db) :
    (args.listed o db).countP (fun t => decide (db.now ≤ t.issuedAt)) =
      args.rivals db + 1 := by
  have hrow : (args.row db).issuedAt = db.now := rfl
  rw [IssueToken.listed, (o.perm _).countP_eq, List.countP_filter, IssueToken.rows,
    List.countP_append, List.countP_singleton]
  simp only [row_active, hrow, Nat.le_refl, decide_true, Bool.and_self, if_true]
  congr 1
  exact List.countP_congr fun t _ => by rw [Bool.and_comm]

/-- With fewer rivals than places the new token has a place. -/
theorem row_kept (o : IssuedDesc) (h : args.rivals db < args.maxActiveTokens) :
    args.row db ∉ args.surplus o db := by
  intro hin
  -- then every place is taken by a token that is not older
  have hcount := countP_listed o args db
  rw [← List.take_append_drop args.maxActiveTokens (args.listed o db),
    List.countP_append] at hcount
  have hplaces : ((args.listed o db).take args.maxActiveTokens).countP
      (fun t => decide (db.now ≤ t.issuedAt)) = args.maxActiveTokens := by
    rw [List.countP_eq_length.mpr, List.length_take, Nat.min_eq_left]
    · have hpos := List.length_pos_of_mem hin
      rw [IssueToken.surplus, List.length_drop] at hpos
      omega
    · intro t ht
      have hle := surplus_older ht hin
      exact decide_eq_true hle
  have hsurplus : 0 < ((args.listed o db).drop args.maxActiveTokens).countP
      (fun t => decide (db.now ≤ t.issuedAt)) :=
    List.countP_pos_iff.mpr ⟨args.row db, hin, decide_eq_true (Nat.le_refl _)⟩
  omega

/-- No row is listed twice. -/
theorem listed_nodup (o : IssuedDesc) (args : IssueToken) (db : Db) :
    (args.listed o db).Nodup := by
  have hold : db.tokens.rows.Nodup := by
    refine db.tokens.unique.imp ?_
    rintro a b hclash rfl
    rw [tokenSchema.clash_of_ident a a rfl] at hclash
    cases hclash
  have hnew : args.row db ∉ db.tokens.rows := by
    intro hmem
    have hlt : (args.row db).id < db.tokens.seq := db.tokens.fresh _ hmem
    exact Nat.lt_irrefl _ hlt
  have hrows : (args.rows db).Nodup := by
    rw [IssueToken.rows, List.nodup_append]
    refine ⟨hold, List.nodup_singleton _, ?_⟩
    rintro a ha b hb rfl
    rw [List.mem_singleton.mp hb] at ha
    exact hnew ha
  exact (o.perm _).nodup_iff.mpr (hrows.filter _)

/-- Listed by id, the new token stands behind its rivals. -/
theorem row_pruned (h : args.maxActiveTokens ≤ args.rivals db) :
    args.row db ∈ args.surplus byId db := by
  have hsorted : (args.listed byId db).Pairwise olderIdFirst := olderIdFirst_sorted _
  have hmem : args.row db ∈ args.listed byId db :=
    mem_listed (row_mem args db) (row_active args db)
  obtain ⟨before, after, hlist⟩ := List.append_of_mem hmem
  have hcount := countP_listed byId args db
  rw [hlist, List.countP_append, List.countP_cons] at hcount
  have hafter : after.countP (fun t => decide (db.now ≤ t.issuedAt)) = 0 := by
    refine List.countP_eq_zero.mpr fun t ht => ?_
    have hrow : t ∈ args.rows db := by
      have hin : t ∈ args.listed byId db := by
        rw [hlist]
        exact List.mem_append_right _ (List.mem_cons_of_mem _ ht)
      exact (listed_subset byId hin).1
    rw [hlist, List.pairwise_append] at hsorted
    have hlater := (List.pairwise_cons.mp hsorted.2.1).1 t ht
    have hnow : (args.row db).issuedAt = db.now := rfl
    have hnodup : t ≠ args.row db := by
      rintro rfl
      have honce := listed_nodup byId args db
      rw [hlist, List.nodup_append] at honce
      exact (List.nodup_cons.mp honce.2.1).1 ht
    rcases id_le_row hrow with heq | hid
    · exact absurd heq hnodup
    · rcases hlater with hlt | ⟨-, hle⟩
      · simp only [decide_eq_true_eq]
        omega
      · omega
  have hbefore := List.countP_le_length (p := fun t => decide (db.now ≤ t.issuedAt))
    (l := before)
  simp only [show (args.row db).issuedAt = db.now from rfl, Nat.le_refl, decide_true,
    if_true] at hcount
  have hlength : args.maxActiveTokens ≤ before.length := by omega
  rw [IssueToken.surplus, hlist, List.drop_append_of_le_length hlength]
  exact List.mem_append_right _ (List.mem_cons_self ..)

/-- A call does what it is for: it answers with the token it has inserted,
which is active, and prunes the rest. -/
def IssuesNewest (o : IssuedDesc) (args : IssueToken) (db : Db) : Prop :=
  ∃ issued pruned db',
    (issueTokenInConnection args).run (orderedMachine o) db = (.ok (issued, pruned), db') ∧
      Prunes args db pruned db' ∧ KeepsIssued args issued db'

/-- **Whatever the order, the pruning is right**: the bound, the order of what
stays and goes, the report, and everybody else's tokens. -/
theorem issue_prunes (o : IssuedDesc) (hcan : CanIssue args db) :
    ∃ pruned db',
      (issueTokenInConnection args).run (orderedMachine o) db =
          (.ok (⟨db.tokens.seq, args.accessTokenHash⟩, pruned), db') ∧
        Prunes args db pruned db' ∧
        (KeepsIssued args ⟨db.tokens.seq, args.accessTokenHash⟩ db' ↔
          args.row db ∉ args.surplus o db) := by
  obtain ⟨hresult, hrows⟩ := run_issue o hcan
  have hleaves : args.Leaves o db
      ((issueTokenInConnection args).run (orderedMachine o) db).2 := hrows
  exact ⟨_, _, Prod.ext hresult rfl, hleaves.prunes hcan, hleaves.keeps_iff⟩

/-- **When the newest token survives.**  Whatever order the database chooses
among tokens of one moment, a call that can issue its token keeps the newest
tokens, the new one among them, exactly when fewer than `max_active_tokens`
active tokens of the user were issued at or after the present. -/
theorem issue_keeps_newest_iff (hcan : CanIssue args db) :
    (∀ o, IssuesNewest o args db) ↔ args.rivals db < args.maxActiveTokens := by
  constructor
  · intro hall
    by_contra hmany
    obtain ⟨issued, pruned, db', hrun, -, hkept⟩ := hall byId
    obtain ⟨pruned', db'', hrun', -, hiff⟩ := issue_prunes byId hcan
    rw [hrun] at hrun'
    simp only [Prod.mk.injEq, Except.ok.injEq] at hrun'
    obtain ⟨⟨rfl, -⟩, rfl⟩ := hrun'
    exact hiff.mp hkept (row_pruned (Nat.not_lt.mp hmany))
  · intro hroom o
    obtain ⟨pruned, db', hrun, hprunes, hiff⟩ := issue_prunes o hcan
    exact ⟨_, pruned, db', hrun, hprunes, hiff.mpr (row_kept o hroom)⟩

/-- A call for user 1 of the small database, with room for `m` tokens. -/
def issueFor (m : Nat) : IssueToken := ⟨1, "client", none, 7, m, none, none, "new"⟩

/-- The small database at the moment at which its token was issued. -/
def sameMoment : Db := { oneToken.db with now := 0 }

/-- With room for two, the new token survives. -/
theorem issue_keeps_both : IssuesNewest byId (issueFor 2) sameMoment := by
  refine (issue_keeps_newest_iff ⟨by decide, by decide, by decide +kernel, ?_⟩).mpr ?_ byId
  · decide +kernel
  · decide +kernel

/-- **A token that is dead on arrival.**  With room for one, a second token of
the same moment is answered with success and revoked in the same call. -/
theorem issued_token_pruned : ¬ IssuesNewest byId (issueFor 1) sameMoment := by
  rintro ⟨issued, pruned, db', hrun, -, t, ht, hid, -, hactive⟩
  have hresult : ((issueTokenInConnection (issueFor 1)).run (orderedMachine byId)
      sameMoment).1 = .ok (⟨2, "new"⟩, ["new"]) := by decide +kernel
  have hdead : ∀ t ∈ ((issueTokenInConnection (issueFor 1)).run (orderedMachine byId)
      sameMoment).2.tokens.rows, t.id = 2 → t.activeFor 1 = false := by decide +kernel
  rw [hrun] at hresult hdead
  simp only [Except.ok.injEq, Prod.mk.injEq] at hresult
  obtain ⟨rfl, -⟩ := hresult
  have hgone : t.activeFor (issueFor 1).userId = false := hdead t ht hid
  rw [hgone] at hactive
  cases hactive

end Survival

end AsterYggdrasil
