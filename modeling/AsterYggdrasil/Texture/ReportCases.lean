import AsterYggdrasil.Interleave.Sequence
import AsterYggdrasil.Texture.Refusals

/-!
# Closed cases

A texture can be taken down in two ways: an administrator unpublishes it, or accepts a
report about it.  Unpublishing handles every pending report of the texture, accepting
handles the one report.  `TakenDown` looks back over a run for the take-down a texture
has not been published after, and **the case is closed** when no report about it is
pending any more.

A pending report appears only by `create_texture_library_report`, for a published
texture and once for each reporter; every other call only settles reports.  So a case
that has been closed stays closed until the texture is published again, and an accepted
report closes it if it was the only one.
-/

namespace AsterYggdrasil.Textures

open Interleave Relational
open Interleave.Prog

/-- A report about the texture is pending. -/
def HasPending (s : TextureState) (textureId : Nat) : Prop :=
  ∃ r ∈ s.reports.rows, r.textureId = textureId ∧ r.status = .pending

def Published (s : TextureState) (textureId : Nat) : Prop :=
  ∃ t ∈ s.textures.rows, t.id = textureId ∧ t.libraryStatus = .published

/-- Every reporter has at most one pending report about each texture. -/
def OnePending (s : TextureState) : Prop :=
  ∀ r ∈ s.reports.rows, ∀ r' ∈ s.reports.rows, r.status = .pending → r'.status = .pending →
    r.reporterUserId = r'.reporterUserId → r.textureId = r'.textureId → r = r'

/-- The call takes the texture down. -/
def TakesDown (s : TextureState) (call : ModerationCall) (textureId : Nat) : Prop :=
  (∃ answer, (call.body.run textureMachine s).1 = .ok answer) ∧
    match call with
    | .unpublish _ _ id _ => id = textureId
    | .acceptReport _ _ reportId _ =>
        ∃ r ∈ s.reports.rows, r.id = reportId ∧ r.textureId = textureId
    | _ => False

/-- The state after some calls. -/
abbrev moderated (s₀ : TextureState) (calls : List ModerationCall) : TextureState :=
  serve textureMachine ModerationCall.body s₀ calls

/-- Some call of the run has taken the texture down, and it has not been published
since. -/
def TakenDown (s₀ : TextureState) (calls : List ModerationCall) (textureId : Nat) : Prop :=
  ∃ done call rest, calls = done ++ call :: rest ∧
    TakesDown (moderated s₀ done) call textureId ∧
    ∀ more, more <+: rest → ¬ Published (moderated s₀ (done ++ call :: more)) textureId

/-- The report that an acceptance accepts. -/
structure Acceptable (policy : TexturePolicy) (s : TextureState) (reportId : Nat)
    (adminNote : Option String) (r : TextureReport) : Prop where
  enabled : policy.libraryEnabled = true
  given : reportId ≠ 0
  mem : r ∈ s.reports.rows
  id : r.id = reportId
  pending : r.status = .pending
  texture : r.textureId ≠ 0 ∧ ∃ t ∈ s.textures.rows, t.id = r.textureId ∧
    t.isWardrobeItem = true
  note : ∃ note, normalizeAdminReportNote adminNote = .ok note

/-- **A report that is accepted is the only pending one about its texture.** -/
def AcceptsAlone (s : TextureState) : ModerationCall → Prop
  | .acceptReport policy _ reportId adminNote =>
      ∀ r, Acceptable policy s reportId adminNote r → ∀ r' ∈ s.reports.rows,
        r'.textureId = r.textureId → r'.status = .pending → r' = r
  | _ => True

/-! ## What becomes of reports -/

/-- A statement that makes no report pending. -/
def TextureStmt.settles : TextureStmt → Prop
  | .reportInsert _ => False
  | .reportHandle _ input => input.status ≠ .pending
  | _ => True

/-- What is pending in `s'` was pending in `s`. -/
def FewerPending (s s' : TextureState) : Prop :=
  ∀ r ∈ s'.reports.rows, r.status = .pending → r ∈ s.reports.rows

theorem mem_reportHandle {id : Nat} {input : HandleReport} {s : TextureState}
    {r' : TextureReport} :
    r' ∈ ((TextureStmt.reportHandle id input).exec s).2.reports.rows ↔
      ∃ r ∈ s.reports.rows, (if r.id = id then handledReport s.now input r else r) = r' := by
  show r' ∈ s.reports.rows.map _ ↔ _
  simp

/-- Handling a report leaves the other pending ones. -/
theorem pending_of_reportHandle {id : Nat} {input : HandleReport} {s : TextureState}
    (hstatus : input.status ≠ .pending) {r : TextureReport} (hpending : r.status = .pending) :
    r ∈ ((TextureStmt.reportHandle id input).exec s).2.reports.rows ↔
      r ∈ s.reports.rows ∧ r.id ≠ id := by
  rw [mem_reportHandle]
  constructor
  · rintro ⟨row, hrow, rfl⟩
    by_cases hid : row.id = id
    · rw [if_pos hid] at hpending
      exact absurd hpending hstatus
    · rw [if_neg hid]
      exact ⟨hrow, hid⟩
  · rintro ⟨hrow, hid⟩
    exact ⟨r, hrow, if_neg hid⟩

theorem exec_settles {i : TextureStmt} (hi : i.settles) (s : TextureState) :
    FewerPending s (i.exec s).2 := by
  intro r hr hpending
  cases i with
  | reportInsert input => exact hi.elim
  | reportHandle id input => exact ((pending_of_reportHandle hi hpending).mp hr).1
  | textureDelete id => exact (List.mem_filter.mp hr).1
  | service i =>
      simp only [TextureStmt.exec, TextureState.cascade] at hr
      split at hr
      · exact hr
      · exact (List.mem_filter.mp (List.mem_filter.mp hr).1).1
      · exact hr
  | textureInsert | bindingInsert | bindingSetTexture | preferenceInsert
  | preferenceSetTexture | tagInsert =>
      simp only [TextureStmt.exec, TextureState.insertTexture, TextureState.insertBinding,
        TextureState.setBindingTexture, TextureState.insertPreference,
        TextureState.setPreferenceTexture, TextureState.insertTagBinding] at hr
      revert hr
      repeat' split
      all_goals exact id
  | _ => exact hr

/-- A program that makes no report pending. -/
abbrev Settles {α : Type} (p : TextureProg α) : Prop := p.Within TextureStmt.settles

section Settles

variable {α : Type}

theorem settles_required {e : TextureFailure} {found : Option α} :
    Settles (required e found) := by
  cases found <;> trivial

theorem settles_checked {r : Except AsterError α} : Settles (checked r) := Within.ofExcept

theorem settles_adminWardrobeTexture (textureId : Nat) :
    Settles (adminWardrobeTexture textureId) :=
  Within.rejectIf.bind fun _ => Within.stmt_bind trivial fun _ => settles_required

theorem settles_userWardrobeTexture (userId textureId : Nat) :
    Settles (userWardrobeTexture userId textureId) :=
  Within.rejectIf.bind fun _ => Within.stmt_bind trivial fun _ => settles_required

theorem settles_ensureUserNotBanned (g : AsterError → TextureFailure) (userId : Nat)
    (scope : UserBanScope) : Settles (ensureUserNotBanned g userId scope) :=
  Within.stmt_bind trivial fun _ => Within.rejectIf

theorem settles_pendingAdminTextureReport (reportId : Nat) :
    Settles (pendingAdminTextureReport reportId) := by
  have hreport : Settles (adminTextureReport reportId) :=
    Within.rejectIf.bind fun _ => Within.stmt_bind trivial fun _ => settles_required
  exact hreport.bind fun _ => Within.rejectIf.bind fun _ => trivial

theorem settles_updateLibraryReview (texture : MinecraftTexture) (input : UpdateReview) :
    Settles (updateLibraryReview texture input) :=
  Within.stmt_bind trivial fun _ => settles_required

theorem settles_replaceTextureTags (textureId : Nat) (tagIds : List Nat) :
    Settles (replaceTextureTags textureId tagIds) := by
  refine Within.stmt_bind trivial fun _ => Within.stmt_bind trivial fun now => ?_
  exact Within.forEach (fun tagId => Within.stmt_bind trivial fun _ => Within.rejectIf) tagIds

theorem settles_replaceForAdmin (textureId : Nat) (tagIds : List Nat) :
    Settles (replaceLibraryTextureTagsForAdmin textureId tagIds) :=
  settles_checked.bind fun _ => Within.stmt_bind trivial fun _ => Within.rejectIf.bind fun _ =>
    settles_replaceTextureTags _ _

theorem settles_handlePending (textureId : Nat) {input : HandleReport}
    (hstatus : input.status ≠ .pending) :
    Settles (handlePendingForTexture textureId input) := by
  refine Within.stmt_bind trivial fun reports => Within.forEach (fun report => ?_) reports
  exact Within.stmt_bind hstatus fun _ => settles_required.bind fun _ => trivial

theorem settles_adminTextureLibraryMetadata (texture : MinecraftTexture) :
    Settles (adminTextureLibraryMetadata texture) :=
  Within.stmt_bind trivial fun _ => Within.stmt_bind trivial fun _ =>
    settles_required.bind fun _ => trivial

/-- **Only the creation of a report makes one pending.** -/
theorem settles_body {call : ModerationCall}
    (hcall : ∀ policy reporterUserId textureId reason message,
      call ≠ .createReport policy reporterUserId textureId reason message) :
    Settles call.body := by
  cases call with
  | createReport policy reporterUserId textureId reason message =>
      exact absurd rfl (hcall policy reporterUserId textureId reason message)
  | submit policy userId textureId =>
      refine Within.bind ?_ fun t => Within.stmt_bind trivial fun _ => trivial
      refine Within.rejectIf.bind fun _ => ?_
      refine (settles_ensureUserNotBanned _ _ _).bind fun _ => ?_
      refine (settles_userWardrobeTexture _ _).bind fun t => Within.rejectIf.bind fun _ => ?_
      exact Within.stmt_bind trivial fun now => settles_updateLibraryReview _ _
  | approve policy reviewerUserId textureId reviewNote tagIds =>
      refine Within.bind ?_ fun t => (settles_adminTextureLibraryMetadata t).bind
        fun _ => trivial
      refine Within.rejectIf.bind fun _ => (settles_adminWardrobeTexture _).bind fun t => ?_
      refine Within.rejectIf.bind fun _ => Within.rejectIf.bind fun _ => ?_
      have htags : Settles (replaceGivenTags t.id tagIds) := by
        cases tagIds with
        | none => trivial
        | some tagIds => exact settles_replaceForAdmin _ _
      refine htags.bind fun _ => Within.stmt_bind trivial fun now => ?_
      exact settles_checked.bind fun _ => settles_updateLibraryReview _ _
  | reject policy reviewerUserId textureId reviewNote =>
      refine Within.bind ?_ fun t => (settles_adminTextureLibraryMetadata t).bind
        fun _ => trivial
      refine Within.rejectIf.bind fun _ => (settles_adminWardrobeTexture _).bind fun t => ?_
      refine Within.rejectIf.bind fun _ => settles_checked.bind fun note => ?_
      exact Within.stmt_bind trivial fun now => settles_updateLibraryReview _ _
  | unpublish policy reviewerUserId textureId reviewNote =>
      refine Within.bind ?_ fun t => (settles_adminTextureLibraryMetadata t).bind
        fun _ => trivial
      refine Within.rejectIf.bind fun _ => (settles_adminWardrobeTexture _).bind fun t => ?_
      refine Within.rejectIf.bind fun _ => settles_checked.bind fun note => ?_
      refine Within.stmt_bind trivial fun now => ?_
      refine (settles_updateLibraryReview _ _).bind fun updated => ?_
      exact (settles_handlePending _ fun h => by cases h).bind fun _ => trivial
  | acceptReport policy handlerUserId reportId adminNote =>
      refine Within.bind ?_ fun _ => trivial
      refine Within.rejectIf.bind fun _ => ?_
      refine (settles_pendingAdminTextureReport _).bind fun report => ?_
      refine (settles_adminWardrobeTexture _).bind fun t => settles_checked.bind fun note => ?_
      refine Within.stmt_bind trivial fun now => ?_
      refine (settles_updateLibraryReview _ _).bind fun updated => ?_
      exact Within.stmt_bind (fun h => by cases h) fun _ => settles_required
  | rejectReport policy handlerUserId reportId adminNote =>
      refine Within.bind ?_ fun _ => trivial
      refine Within.rejectIf.bind fun _ => ?_
      refine (settles_pendingAdminTextureReport _).bind fun report => ?_
      refine settles_checked.bind fun note => Within.stmt_bind trivial fun now => ?_
      exact Within.stmt_bind (fun h => by cases h) fun _ => settles_required
  | replaceTags userId textureId tagIds =>
      refine Within.bind ?_ fun _ => trivial
      refine (settles_ensureUserNotBanned _ _ _).bind fun _ => ?_
      refine (settles_userWardrobeTexture _ _).bind fun t => settles_checked.bind fun ids => ?_
      refine Within.stmt_bind trivial fun tags => Within.rejectIf.bind fun _ => ?_
      exact (settles_replaceTextureTags _ _).bind fun _ => trivial
  | replaceTagsForAdmin textureId tagIds =>
      exact (settles_replaceForAdmin _ _).bind fun _ => trivial
  | wait ms => exact Within.stmt_bind trivial fun _ => trivial

end Settles

theorem FewerPending.trans {s s' s'' : TextureState} (h : FewerPending s s')
    (h' : FewerPending s' s'') : FewerPending s s'' :=
  fun r hr hpending => h r (h' r hr hpending) hpending

/-! ## One call -/

section Steps

variable {s : TextureState}

/-- How the pending reports come about. -/
inductive PendingOrigin (s s' : TextureState) : Prop
  | fewer (h : FewerPending s s')
  | created (row : TextureReport) (hpublished : Published s row.textureId)
      (hnone : ∀ r ∈ s.reports.rows, r.status = .pending →
        r.reporterUserId = row.reporterUserId → r.textureId ≠ row.textureId)
      (h : ∀ r ∈ s'.reports.rows, r.status = .pending → r ∈ s.reports.rows ∨ r = row)

/-- An insert adds the row, or leaves the rows as they are. -/
theorem insertReport_rows (input : CreateReport) :
    ∀ r ∈ (s.insertReport input).2.reports.rows,
      r ∈ s.reports.rows ∨ r = newReport s.now s.reports.seq input := by
  intro r hr
  unfold TextureState.insertReport at hr
  simp only at hr
  split at hr
  · cases hins : s.reports.nextId.2.insert? (newReport s.now s.reports.nextId.1 input) with
    | none =>
        rw [hins] at hr
        exact Or.inl hr
    | some reports =>
        rw [hins] at hr
        rw [(Table.insert?_eq_some hins).1] at hr
        exact (List.mem_append.mp hr).imp_right List.mem_singleton.mp
  · exact Or.inl hr

theorem looks_publicReportableTexture (textureId : Nat) :
    (publicReportableTexture textureId).Looks textureMachine s
      fun _ => Published s textureId := by
  refine looks_rejectIf.bind fun _ _ => (looks_query rfl).bind fun found hfound => ?_
  refine looks_required.mono fun t ht => ?_
  rw [hfound] at ht
  obtain ⟨hmem, hp⟩ := Table.of_find? ht
  simp only [Bool.and_eq_true, decide_eq_true_eq] at hp
  exact ⟨t, hmem, hp.1.1.1, hp.2⟩

/-- **A report is created for a published texture**, by a reporter without a pending
one. -/
theorem wp_createReport (policy : TexturePolicy) (reporterUserId textureId : Nat)
    (reason : ReportReason) (message : Option String) :
    (createTextureLibraryReport policy reporterUserId textureId reason message).Wp
      textureMachine (fun _ s' => PendingOrigin s s') s := by
  have hnothing : PendingOrigin s s := .fewer fun r hr _ => hr
  refine looks_enabled.wp_bind (fun _ => hnothing) fun _ _ => ?_
  refine (looks_ensureUserNotBanned _ _ _).wp_bind (fun _ => hnothing) fun _ _ => ?_
  refine (looks_publicReportableTexture _).wp_bind (fun _ => hnothing)
    fun t hpublished => ?_
  refine looks_rejectIf.wp_bind (fun _ => hnothing) fun _ _ => ?_
  refine (looks_query rfl).wp_bind (fun _ => hnothing) fun pending hpending => ?_
  refine looks_rejectIf.wp_bind (fun _ => hnothing) fun _ hnone => ?_
  refine looks_checked.wp_bind (fun _ => hnothing) fun message _ => ?_
  have hfree : ∀ r ∈ s.reports.rows, r.status = .pending →
      r.reporterUserId = reporterUserId → r.textureId ≠ textureId := by
    intro r hr hstatus hreporter htexture
    have hfind : s.reports.find? (fun r => r.reporterUserId = reporterUserId &&
        r.textureId = textureId && r.status = .pending) = none := by
      rw [hpending] at hnone
      exact Option.isNone_iff_eq_none.mp (Option.isSome_eq_false_iff.mp hnone)
    have hfalse := Table.find?_eq_none.mp hfind r hr
    simp [hstatus, hreporter, htexture] at hfalse
  have hinsert : PendingOrigin s (s.insertReport ⟨textureId, reporterUserId, reason, message⟩).2 :=
    .created (newReport s.now s.reports.seq ⟨textureId, reporterUserId, reason, message⟩)
      hpublished hfree fun r hr _ => insertReport_rows _ r hr
  refine wp_stmt_bind.mpr ?_
  show PendingOrigin s _
  cases ((TextureStmt.reportInsert ⟨textureId, reporterUserId, reason, message⟩).exec s).1 <;>
    exact hinsert

/-- **One call and the pending reports.** -/
theorem pending_origin (s : TextureState) (call : ModerationCall) :
    PendingOrigin s (after textureMachine ModerationCall.body s call) := by
  have hfewer : (∀ policy reporterUserId textureId reason message,
      call ≠ .createReport policy reporterUserId textureId reason message) →
      PendingOrigin s (after textureMachine ModerationCall.body s call) := by
    intro hcall
    have hrun : FewerPending s (call.body.run textureMachine s).2 :=
      Within.run_respects (M := textureMachine) (r := FewerPending) (fun _ _ hr _ => hr)
        (fun _ _ _ => FewerPending.trans)
        ((settles_body hcall).mono fun i hi s => exec_settles hi s) s
    exact .fewer hrun
  cases call with
  | createReport policy reporterUserId textureId reason message =>
      exact wp_bind_ok (M := textureMachine) (I := PendingOrigin s)
        (wp_createReport policy reporterUserId textureId reason message)
  | _ => exact hfewer fun _ _ _ _ _ h => by cases h

end Steps

/-! ## Take-downs -/

section TakeDowns

variable {s : TextureState}

/-- Handling what is pending leaves nothing pending. -/
theorem outcomes_handled (textureId : Nat) (input : HandleReport)
    (hstatus : input.status ≠ .pending) :
    (handlePendingForTexture textureId input).Outcomes textureMachine NoRefusal
      (fun _ s' => ¬ HasPending s' textureId) s := by
  refine outcomes_query ?_
  refine Outcomes.mono (outcomes_forEach (M := textureMachine)
    (fun xs s' => ∀ r ∈ s'.reports.rows, r.textureId = textureId → r.status = .pending →
      ∃ x ∈ xs, x.id = r.id) (fun x xs s' hleft => ?_) ?_) (fun _ _ h => h) ?_
  · have hnext : ∀ r ∈ ((TextureStmt.reportHandle x.id input).exec s').2.reports.rows,
        r.textureId = textureId → r.status = .pending → ∃ y ∈ xs, y.id = r.id := by
      intro r hr htexture hpending
      obtain ⟨hold, hid⟩ := (pending_of_reportHandle hstatus hpending).mp hr
      obtain ⟨y, hy, hyid⟩ := hleft r hold htexture hpending
      rcases List.mem_cons.mp hy with rfl | hy
      · exact absurd hyid.symm hid
      · exact ⟨y, hy, hyid⟩
    have hwritten := outcomes_written
      ((TextureStmt.reportHandle x.id input).exec s').1
      (K := fun _ s'' => ∀ r ∈ s''.reports.rows, r.textureId = textureId →
        r.status = .pending → ∃ y ∈ xs, y.id = r.id) fun _ _ => hnext
    exact outcomes_query (hwritten.bind fun _ _ h => outcomes_ok h)
  · intro r hr htexture hpending
    refine ⟨r, List.mem_filter.mpr ⟨hr, ?_⟩, rfl⟩
    simp [htexture, hpending]
  · rintro _ s' hnone ⟨r, hr, htexture, hpending⟩
    obtain ⟨x, hx, -⟩ := hnone r hr htexture hpending
    cases hx

theorem looks_adminTextureLibraryMetadata (t : MinecraftTexture) :
    (adminTextureLibraryMetadata t).Looks textureMachine s fun _ => True :=
  (looks_query rfl).bind fun _ _ => (looks_query rfl).bind fun _ _ =>
    looks_required.bind fun _ _ => looks_ok trivial

/-- **Unpublishing closes the case.** -/
theorem outcomes_unpublished (policy : TexturePolicy) (reviewerUserId textureId : Nat)
    (reviewNote : Option String) :
    (ModerationCall.unpublish policy reviewerUserId textureId reviewNote).body.Outcomes
      textureMachine (fun _ _ => True) (fun _ s' => ¬ HasPending s' textureId) s := by
  have hunpublish : (unpublishTextureLibraryTexture policy reviewerUserId textureId
      reviewNote).Outcomes textureMachine (fun _ _ => True)
      (fun _ s' => ¬ HasPending s' textureId) s := by
    refine looks_enabled.bind_outcomes (fun _ => trivial) fun _ _ => ?_
    refine looks_adminTexture.bind_outcomes (fun _ => trivial) fun t _ => ?_
    refine looks_rejectIf.bind_outcomes (fun _ => trivial) fun _ _ => ?_
    refine looks_checked.bind_outcomes (fun _ => trivial) fun note _ => ?_
    refine looks_utcNow.bind_outcomes (fun _ => trivial) fun now _ => ?_
    have hupdate : ∀ input, (updateLibraryReview t input).Outcomes textureMachine
        (fun _ _ => True) (fun _ _ => True) s :=
      fun _ => ⟨fun _ _ => trivial, fun _ _ => trivial⟩
    refine (hupdate _).bind fun updated s' _ => ?_
    have hhandled := outcomes_handled (s := s') textureId
      ⟨.accepted, note, reviewerUserId, now⟩ fun h => by cases h
    exact Outcomes.bind (hhandled.mono (fun _ _ _ => trivial) fun _ _ h => h)
      fun _ _ h => outcomes_ok h
  refine hunpublish.bind fun t s' hnone => ?_
  refine (looks_adminTextureLibraryMetadata t).bind_outcomes (fun _ => trivial) fun _ _ => ?_
  exact outcomes_ok hnone

/-- What the acceptance of report `r` leaves. -/
structure Accepted (s : TextureState) (r : TextureReport) (s' : TextureState) : Prop where
  pending : ∀ x : TextureReport, x.status = .pending →
    (x ∈ s'.reports.rows ↔ x ∈ s.reports.rows ∧ x.id ≠ r.id)
  unpublished : ¬ Published s' r.textureId

theorem run_updateLibraryReview {t : MinecraftTexture} (ht : t ∈ s.textures.rows)
    (input : UpdateReview) :
    (updateLibraryReview t input).run textureMachine s =
      (.ok (patchReview s.now input t),
        ((TextureStmt.textureUpdateReview t.id input).exec s).2) := by
  have hfound : ((TextureStmt.textureUpdateReview t.id input).exec s).1 =
      some (patchReview s.now input t) :=
    congrArg (Option.map (patchReview s.now input)) (textureById_of_mem ht)
  exact run_required hfound

theorem not_published_of_review {textureId : Nat} {input : UpdateReview}
    (hstatus : input.libraryStatus ≠ .published) :
    ¬ Published ((TextureStmt.textureUpdateReview textureId input).exec s).2 textureId := by
  rintro ⟨t', ht', hid, hpublished⟩
  obtain ⟨row, -, rfl⟩ := List.mem_map.mp ht'
  by_cases hrow : row.id = textureId
  · rw [if_pos (decide_eq_true hrow)] at hpublished
    exact hstatus hpublished
  · rw [if_neg (by simpa using hrow)] at hid
    exact hrow hid

theorem reportById_of_mem {r : TextureReport} (hr : r ∈ s.reports.rows) :
    s.reports.find? (fun x => x.id = r.id) = some r := by
  cases hfind : s.reports.find? fun x => x.id = r.id with
  | none => simpa using Table.find?_eq_none.mp hfind r hr
  | some x =>
      obtain ⟨hx, hid⟩ := Table.of_find? hfind
      rw [s.reports.eq_of_ident hr hx (of_decide_eq_true hid).symm]

/-- The two writes of an acceptance. -/
theorem outcomes_acceptance {t : MinecraftTexture} {r : TextureReport}
    (ht : t ∈ s.textures.rows) (hid : t.id = r.textureId) (hr : r ∈ s.reports.rows)
    (handlerUserId now : Nat) (note : Option String) :
    ((updateLibraryReview t (reviewed .privateItem (some none) handlerUserId now note)).bind
      fun _ => (query (.reportHandle r.id ⟨.accepted, note, handlerUserId, now⟩)).bind
        fun found => required (.aster .databaseOperation) found).Outcomes textureMachine
      (fun _ _ => False) (fun _ s' => Accepted s r s') s := by
  refine outcomes_of_run (run_updateLibraryReview ht _) (outcomes_query ?_)
  have hfound := reportById_of_mem hr
  refine outcomes_required (congrArg (Option.map _) hfound) ⟨fun x hpending => ?_, ?_⟩
  · exact pending_of_reportHandle (s := ((TextureStmt.textureUpdateReview t.id _).exec s).2)
      (fun h => by cases h) hpending
  · exact hid ▸ not_published_of_review (s := s) (fun h => by cases h)

section Acceptance

variable {policy : TexturePolicy} {reportId : Nat} {adminNote : Option String}

/-- An acceptance that succeeds has accepted its report. -/
theorem outcomes_hasAccepted {handlerUserId : Nat} :
    (ModerationCall.acceptReport policy handlerUserId reportId adminNote).body.Outcomes
      textureMachine (fun _ _ => True)
      (fun _ s' => ∃ r, Acceptable policy s reportId adminNote r ∧ Accepted s r s') s := by
  refine Outcomes.bind (K := fun _ s' => ∃ r, Acceptable policy s reportId adminNote r ∧
    Accepted s r s') ?_ fun _ _ h => outcomes_ok h
  have hreport : (pendingAdminTextureReport reportId).Looks textureMachine s fun r =>
      reportId ≠ 0 ∧ r ∈ s.reports.rows ∧ r.id = reportId ∧ r.status = .pending := by
    obtain ⟨hsame, hfound⟩ := looks_pendingAdminTextureReport (s := s) reportId
    refine ⟨hsame, fun r hr => ⟨fun hzero => ?_, hfound r hr⟩⟩
    subst hzero
    cases hr
  refine looks_enabled.bind_outcomes (fun _ => trivial) fun _ henabled => ?_
  refine hreport.bind_outcomes (fun _ => trivial) fun r ⟨hgiven, hr, hid, hpending⟩ => ?_
  refine looks_adminTexture.bind_outcomes (fun _ => trivial)
    fun t ⟨htgiven, ht, htid, hwardrobe⟩ => ?_
  refine looks_checked.bind_outcomes (fun _ => trivial) fun note hnote => ?_
  refine looks_utcNow.bind_outcomes (fun _ => trivial) fun now _ => ?_
  have hacceptable : Acceptable policy s reportId adminNote r :=
    ⟨henabled, hgiven, hr, hid, hpending, ⟨htgiven, t, ht, htid, hwardrobe⟩, note, hnote⟩
  exact (outcomes_acceptance ht htid hr handlerUserId now note).mono
    (fun _ _ _ => trivial) fun _ s' h => ⟨r, hacceptable, h⟩

/-- A report that can be accepted is accepted. -/
theorem outcomes_accepts (handlerUserId : Nat) {r : TextureReport} (h : Acceptable policy s reportId adminNote r) :
    (ModerationCall.acceptReport policy handlerUserId reportId adminNote).body.Outcomes
      textureMachine (fun _ _ => False) (fun _ s' => Accepted s r s') s := by
  obtain ⟨htgiven, t, ht, htid, hwardrobe⟩ := h.texture
  obtain ⟨note, hnote⟩ := h.note
  obtain rfl := h.id
  refine Outcomes.bind (K := fun _ s' => Accepted s r s') ?_ fun _ _ h => outcomes_ok h
  refine outcomes_rejectIf (fun hoff => ?_) fun _ => ?_
  · simp [h.enabled] at hoff
  have hreport : (pendingAdminTextureReport r.id).run textureMachine s = (.ok r, s) := by
    have hfound : (adminTextureReport r.id).run textureMachine s = (.ok r, s) := by
      have hpositive : decide (r.id = 0) = false := by simpa using h.given
      simp only [adminTextureReport, rejectIf, hpositive, bind_eq, rejectIf_false, ok_bind]
      exact run_required (reportById_of_mem h.mem)
    rw [pendingAdminTextureReport, bind_eq, run_bind, hfound]
    simp [rejectIf, h.pending]
  refine outcomes_of_run hreport ?_
  refine outcomes_of_run (run_adminWardrobeTexture htgiven ht htid hwardrobe) ?_
  refine outcomes_of_run (run_checked hnote) (outcomes_query ?_)
  exact outcomes_acceptance ht htid h.mem handlerUserId _ note

end Acceptance

end TakeDowns

/-! ## Runs -/

section Runs

variable {s₀ : TextureState}

/-- The texture has been taken down by the last call, or before it. -/
theorem takenDown_append {calls : List ModerationCall} {call : ModerationCall}
    {textureId : Nat} :
    TakenDown s₀ (calls ++ [call]) textureId ↔
      (TakesDown (moderated s₀ calls) call textureId ∨ TakenDown s₀ calls textureId) ∧
        ¬ Published (moderated s₀ (calls ++ [call])) textureId := by
  constructor
  · rintro ⟨done, down, rest, hcalls, htakes, hsince⟩
    have hnow : ¬ Published (moderated s₀ (calls ++ [call])) textureId :=
      hcalls ▸ hsince rest (List.prefix_refl rest)
    refine ⟨?_, hnow⟩
    rcases List.eq_nil_or_concat rest with rfl | ⟨before, last, rfl⟩
    · obtain ⟨rfl, hcall⟩ := List.append_inj' hcalls rfl
      obtain rfl := List.singleton_inj.mp hcall
      exact Or.inl htakes
    · rw [List.concat_eq_append, ← List.cons_append, ← List.append_assoc] at hcalls
      obtain ⟨rfl, -⟩ := List.append_inj' hcalls rfl
      refine Or.inr ⟨done, down, before, rfl, htakes, fun more hmore => hsince more ?_⟩
      exact hmore.trans (List.concat_eq_append ▸ List.prefix_append before [last])
  · rintro ⟨htakes | ⟨done, down, rest, rfl, htakes, hsince⟩, hnow⟩
    · refine ⟨calls, call, [], rfl, htakes, fun more hmore => ?_⟩
      rw [List.prefix_nil.mp hmore]
      exact hnow
    · refine ⟨done, down, rest ++ [call], by simp, htakes, fun more hmore => ?_⟩
      rcases List.prefix_concat_iff.mp hmore with rfl | hmore
      · simpa using hnow
      · exact hsince more hmore

theorem TakenDown.not_published {calls : List ModerationCall} {textureId : Nat}
    (h : TakenDown s₀ calls textureId) : ¬ Published (moderated s₀ calls) textureId := by
  obtain ⟨done, down, rest, rfl, -, hsince⟩ := h
  exact hsince rest (List.prefix_refl rest)

/-- Every case of a taken-down texture is closed. -/
def CasesClosed (s₀ : TextureState) (calls : List ModerationCall) : Prop :=
  ∀ textureId, TakenDown s₀ calls textureId → ¬ HasPending (moderated s₀ calls) textureId

theorem onePending_step {s : TextureState} (h : OnePending s) (call : ModerationCall) :
    OnePending (after textureMachine ModerationCall.body s call) := by
  intro r hr r' hr' hpending hpending' hreporter htexture
  cases pending_origin s call with
  | fewer hfewer =>
      exact h r (hfewer r hr hpending) r' (hfewer r' hr' hpending') hpending hpending'
        hreporter htexture
  | created row _ hnone hnew =>
      rcases hnew r hr hpending with hold | rfl
      · rcases hnew r' hr' hpending' with hold' | rfl
        · exact h r hold r' hold' hpending hpending' hreporter htexture
        · exact absurd htexture (hnone r hold hpending hreporter)
      · rcases hnew r' hr' hpending' with hold' | rfl
        · exact absurd htexture.symm (hnone r' hold' hpending' hreporter.symm)
        · rfl

/-- A take-down closes the case; an acceptance if its report was the only one. -/
theorem closed_of_takesDown {s : TextureState} {call : ModerationCall} {textureId : Nat}
    (htakes : TakesDown s call textureId) (halone : AcceptsAlone s call) :
    ¬ HasPending (after textureMachine ModerationCall.body s call) textureId := by
  obtain ⟨⟨answer, hanswer⟩, hdown⟩ := htakes
  cases call with
  | unpublish policy reviewerUserId id reviewNote =>
      have hid : id = textureId := hdown
      subst hid
      exact (outcomes_unpublished policy reviewerUserId id reviewNote).of_ok hanswer
  | acceptReport policy handlerUserId reportId adminNote =>
      obtain ⟨r, hacceptable, haccepted⟩ := outcomes_hasAccepted.of_ok hanswer
      obtain ⟨row, hrow, hrowid, hrowtexture⟩ := hdown
      have hsame : row = r :=
        s.reports.eq_of_ident hrow hacceptable.mem (hrowid.trans hacceptable.id.symm)
      subst hsame
      rintro ⟨x, hx, hxtexture, hxpending⟩
      obtain ⟨hold, hother⟩ := (haccepted.pending x hxpending).mp hx
      have honly := halone row hacceptable x hold (hxtexture.trans hrowtexture.symm) hxpending
      exact hother (honly ▸ rfl)
  | _ => exact hdown.elim

/-- **What one call preserves.** -/
theorem casesClosed_step {calls : List ModerationCall} {call : ModerationCall}
    (hclosed : CasesClosed s₀ calls) (halone : AcceptsAlone (moderated s₀ calls) call) :
    CasesClosed s₀ (calls ++ [call]) := by
  intro textureId hdown
  have hstate : moderated s₀ (calls ++ [call]) =
      after textureMachine ModerationCall.body (moderated s₀ calls) call := by
    rw [moderated, serve_append, serve_singleton]
  obtain ⟨htakes | hbefore, -⟩ := takenDown_append.mp hdown
  · rw [hstate]
    exact closed_of_takesDown htakes halone
  · rw [hstate]
    rintro ⟨r, hr, htexture, hpending⟩
    have hnone := hclosed textureId hbefore
    cases pending_origin (moderated s₀ calls) call with
    | fewer hfewer => exact hnone ⟨r, hfewer r hr hpending, htexture, hpending⟩
    | created row hpublished _ hnew =>
        rcases hnew r hr hpending with hold | rfl
        · exact hnone ⟨r, hold, htexture, hpending⟩
        · exact hbefore.not_published (htexture ▸ hpublished)

/-- **A report that is not accepted alone leaves its case open.** -/
theorem not_casesClosed_of_others {calls : List ModerationCall} {call : ModerationCall}
    (hothers : ¬ AcceptsAlone (moderated s₀ calls) call) :
    ¬ CasesClosed s₀ (calls ++ [call]) := by
  have hstate : moderated s₀ (calls ++ [call]) =
      (call.body.run textureMachine (moderated s₀ calls)).2 := by
    rw [moderated, serve_append, serve_singleton]
    rfl
  cases call with
  | acceptReport policy handlerUserId reportId adminNote =>
      simp only [AcceptsAlone, not_forall] at hothers
      obtain ⟨r, hacceptable, x, hx, htexture, hpending, hne⟩ := hothers
      have houtcome := outcomes_accepts handlerUserId hacceptable
      cases hrun : ((ModerationCall.acceptReport policy handlerUserId reportId
          adminNote).body.run textureMachine (moderated s₀ calls)).1 with
      | error e => exact (houtcome.of_error hrun).elim
      | ok answer =>
          obtain ⟨hleft, hunpublished⟩ := houtcome.of_ok hrun
          have hid : x.id ≠ r.id := fun hid =>
            hne ((moderated s₀ calls).reports.eq_of_ident hx hacceptable.mem hid)
          have hdown : TakesDown (moderated s₀ calls)
              (.acceptReport policy handlerUserId reportId adminNote) r.textureId :=
            ⟨⟨answer, hrun⟩, r, hacceptable.mem, hacceptable.id, rfl⟩
          intro hclosed
          refine hclosed r.textureId (takenDown_append.mpr ⟨Or.inl hdown, hstate ▸ hunpublished⟩)
            ⟨x, ?_, htexture, hpending⟩
          rw [hstate]
          exact (hleft x hpending).mpr ⟨hx, hid⟩
  | _ => exact absurd trivial hothers

/-- **Which runs close their cases.**  Along a run of the moderators' calls every reporter
has at most one pending report about each texture, and no report about a taken-down
texture is pending, exactly if each report that is accepted is the only pending one
about its texture. -/
theorem cases_closed_iff (hstart : OnePending s₀) (calls : List ModerationCall) :
    (∀ done, done <+: calls → OnePending (moderated s₀ done) ∧ CasesClosed s₀ done) ↔
      Guarded textureMachine ModerationCall.body AcceptsAlone s₀ calls := by
  constructor
  · induction calls using List.reverseRecOn with
    | nil => exact fun _ => trivial
    | append_singleton calls call ih =>
        intro hall
        have hdone := ih fun done hfirst => hall done (hfirst.trans (List.prefix_append _ _))
        refine guarded_append.mpr ⟨hdone, ?_, trivial⟩
        by_contra hothers
        exact not_casesClosed_of_others hothers (hall _ (List.prefix_refl _)).2
  · rintro hguarded done ⟨rest, rfl⟩
    refine serve_induct (M := textureMachine)
      (P := fun done s => OnePending s ∧ CasesClosed s₀ done) ?_ ?_
      (guarded_append.mp hguarded).1
    · refine ⟨hstart, ?_⟩
      rintro textureId ⟨done, down, rest, hcalls, -⟩
      cases done <;> cases hcalls
    · rintro done call ⟨hone, hclosed⟩ halone
      exact ⟨onePending_step hone call, casesClosed_step hclosed halone⟩

end Runs

/-! ## Two reporters -/

/-- Bob's skin has been published. -/
def bobPublished : TextureState :=
  { twoPlayers with
    textures := ⟨[patchReview 7 (reviewed .published none 1 7 none)
      (newTexture 5 1 bobsSkin)], 2, by decide, by decide⟩ }

/-- Eve and the administrator report the skin. -/
def bothReport : List ModerationCall :=
  [.createReport openPolicy 3 1 .copyright none, .createReport openPolicy 1 1 .spam none]

/-- The reports of the two. -/
def reportsOfBoth : List TextureReport :=
  [newReport 10 1 ⟨1, 3, .copyright, none⟩, newReport 10 2 ⟨1, 1, .spam, none⟩]

/-- Eve alone reports the skin, and her report is accepted. -/
def eveAccepted : List ModerationCall :=
  [.createReport openPolicy 3 1 .copyright none, .acceptReport openPolicy 1 1 none]

/-- Accepting the only report closes the case. -/
theorem sole_report_closes_case :
    OnePending (moderated bobPublished eveAccepted) ∧ CasesClosed bobPublished eveAccepted := by
  have hstart : OnePending bobPublished := fun r hr => by cases hr
  have hreports : (moderated bobPublished
      [.createReport openPolicy 3 1 .copyright none]).reports.rows =
        [newReport 10 1 ⟨1, 3, .copyright, none⟩] := by
    decide +kernel
  have halone : AcceptsAlone
      (moderated bobPublished [.createReport openPolicy 3 1 .copyright none])
      (.acceptReport openPolicy 1 1 none) := by
    intro r hr r' hr' _ _
    have hmem := hr.mem
    rw [hreports] at hmem hr'
    rw [List.mem_singleton.mp hmem, List.mem_singleton.mp hr']
  have hruns := (cases_closed_iff hstart eveAccepted).mpr ⟨trivial, halone, trivial⟩
  exact hruns _ (List.prefix_refl _)

/-- Accepting Eve's report takes the skin down and leaves the other one pending. -/
theorem accepted_case_open :
    ¬ CasesClosed bobPublished (bothReport ++ [.acceptReport openPolicy 1 1 none]) := by
  have hreports : (moderated bobPublished bothReport).reports.rows = reportsOfBoth := by
    decide +kernel
  have htextures : (moderated bobPublished bothReport).textures.rows =
      bobPublished.textures.rows := by
    decide +kernel
  refine not_casesClosed_of_others fun halone => ?_
  have hsame := halone (newReport 10 1 ⟨1, 3, .copyright, none⟩)
    ⟨rfl, by decide, by rw [hreports]; decide, rfl, rfl,
      ⟨by decide, _, by rw [htextures]; exact List.mem_singleton.mpr rfl, rfl, rfl⟩, none, rfl⟩
    (newReport 10 2 ⟨1, 1, .spam, none⟩) (by rw [hreports]; decide) rfl rfl
  exact absurd hsame (by decide)

end AsterYggdrasil.Textures
