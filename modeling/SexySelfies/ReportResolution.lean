import SexySelfies.ModerationAccess

/-!
# Resolving a report

`resolveReport` of `admin.moderation.controller.js`. The handler saves the resolution of the report,
finds or creates the moderation record of the reported user, calls the method for the action on it,
and for every action but `no_action` and `false_report` adds a violation entry. The entry takes over
the severity of the report. The two schemas share no severity, so it is never saved: every such call
ends in an error, after whatever the method has stored.
-/

namespace SexySelfies.Moderation

open Js Platform Violations

/-! ## The report -/

def ReportType.text : ReportType → String
  | .inappropriateContent => "inappropriate_content"
  | .underage => "underage"
  | .harassment => "harassment"
  | .spam => "spam"
  | .fakeAccount => "fake_account"
  | .violence => "violence"
  | .selfHarm => "self_harm"
  | .hateSpeech => "hate_speech"
  | .copyright => "copyright"
  | .termsViolation => "terms_violation"
  | .manualReview => "manual_review"
  | .aiFlagged => "ai_flagged"
  | .other => "other"

def ReportSeverity.text : ReportSeverity → String
  | .low => "low"
  | .medium => "medium"
  | .high => "high"
  | .critical => "critical"

def Action.names : List (String × Action) :=
  [("no_action", .noAction), ("content_removed", .contentRemoved),
   ("content_hidden", .contentHidden), ("user_warned", .userWarned),
   ("user_suspended_24h", .userSuspended24h), ("user_suspended_7d", .userSuspended7d),
   ("user_suspended_30d", .userSuspended30d), ("user_banned", .userBanned),
   ("payout_frozen", .payoutFrozen), ("false_report", .falseReport),
   ("reporter_warned", .reporterWarned)]

variable (numeral : Number → String)

def castAction (v : Value) : Option (Option Action) :=
  match castString numeral v with
  | none => none
  | some none => some none
  | some (some text) => (Action.names.lookup text).map some

structure Resolution where
  context : Context
  action : Value
  reason : Value
  details : Value
  strikeIssued : Value

variable (c : Resolution)

def Resolution.action? : Option Action :=
  match c.action with
  | .str s => Action.names.lookup s
  | _ => none

def Action.isSerious : Action → Bool
  | .userSuspended7d => true
  | .userSuspended30d => true
  | .userBanned => true
  | .contentRemoved => true
  | _ => false

def Report.resolve (r : Report) : Option Report := do
  let reviewedBy ← c.context.adminId.stored
  let action ← castAction numeral c.action
  let reason ← castString numeral c.reason
  let details ← castString numeral c.details
  let appealDeadline ←
    if c.action?.any Action.isSerious then (dateAfter c.context.now (.fin 7) day).map some
    else some r.appealDeadline
  return { r with
    reviewedBy
    reviewCompletedAt := some c.context.now
    status := .resolved
    decision := ⟨action, reason, details⟩
    appealAllowed := c.action?.any Action.isSerious || r.appealAllowed
    appealDeadline }

def Resolution.saved? (r : Report) : Option Report :=
  if c.context.saved then r.resolve numeral c else none

/-! ## The record -/

def Resolution.punish (r : Report) (s : Session) :
    Except Session Session :=
  match c.action? with
  | some .userWarned =>
    addWarning numeral c.context.now c.reason (.str "caution") c.context.adminId s
  | some .userSuspended24h =>
    suspend numeral c.context.now (.num (.fin 24)) c.reason c.context.adminId s
  | some .userSuspended7d => suspendAndStrike 7 s
  | some .userSuspended30d => suspendAndStrike 30 s
  | some .userBanned => ban numeral c.context.now c.reason c.context.adminId s
  | some .contentRemoved =>
    if r.reportedContent.isSome && !c.context.contentUpdated then .error s else .ok s
  | some .payoutFrozen => freezePayouts c.context.now (.num (.fin 30)) c.context.adminId s
  | _ => .ok s
where
  suspendAndStrike (days : ℚ) (s : Session) : Except Session Session := do
    let s ← suspend numeral c.context.now (.num (.fin (days * 24))) c.reason c.context.adminId s
    if c.strikeIssued.truthy then
      addStrike numeral c.context.now c.reason c.context.adminId .undefined s
    else .ok s

def Resolution.isPlain : Bool :=
  c.action? = some .noAction || c.action? = some .falseReport

/-- `violations.push(...)`; type, severity and admin are required. -/
def Resolution.addViolation (id : Nat) (r : Report)
    (d : UserViolation) : Option UserViolation := do
  let type ← ViolationType.names.lookup r.reportType.text
  let severity ← Severity.names.lookup r.severity.text
  let description ← castString numeral c.reason
  let admin ← c.context.adminId.stored
  let issuedBy ← admin
  return { d with
    violations := d.violations
      ++ [{ reportId := some id, type, severity, description, issuedBy,
            issuedAt := c.context.now }] }

def Resolution.updateRecord (id : Nat) (r : Report)
    (s : Session) : Except Session Session := do
  let s ← c.punish numeral r s
  if c.isPlain then .ok s
  else do
    let s ← s.assign (c.addViolation numeral id r)
    save s

def failedToResolve : String := "Failed to resolve report"

def Db.saveReport (db : Db) (id : Nat) (r : Report) : Db :=
  { db with reports := db.reports.set id r }

def Resolution.afterReport (id : Nat) (r : Report)
    (db : Db) : Db × Response Report :=
  match db.users[r.reportedUser]? with
  | none => (db, .failure 500 failedToResolve)
  | some user =>
    match db.openRecord c.context r.reportedUser user.role with
    | none => (db, .failure 500 failedToResolve)
    | some record =>
      match db.callRecord c.context r.reportedUser record (c.updateRecord numeral id r) with
      | .ok db => (db, .success 200 "Report resolved successfully" (some r))
      | .error db => (db, .failure 500 failedToResolve)

def resolveReport (reportId : Ref) (c : Resolution) (db : Db) :
    Db × Response Report :=
  match reportId with
  | .malformed => (db, .failure 500 failedToResolve)
  | .absent => (db, .failure 404 "Report not found")
  | .id id =>
    match db.reports[id]? with
    | none => (db, .failure 404 "Report not found")
    | some report =>
      match c.saved? numeral report with
      | none => (db, .failure 500 failedToResolve)
      | some resolved => c.afterReport numeral id resolved (db.saveReport id resolved)

def resolveStep (id : Nat) (db : Db) (c : Resolution) : Db :=
  (resolveReport numeral (.id id) c db).1

/-! ## What a call leaves -/

theorem addViolation_eq_none (id : Nat) (r : Report)
    (d : UserViolation) : c.addViolation numeral id r d = none := by
  have hse : Severity.names.lookup r.severity.text = none := by
    cases r.severity <;> decide
  simp [Resolution.addViolation, hse]

/-- The record after a call on a report whose resolution was saved. -/
def Resolution.recordAfter (r : Report) (db : Db) :
    Option Record :=
  match db.users[r.reportedUser]? with
  | none => db.violations r.reportedUser
  | some user =>
    match db.openRecord c.context r.reportedUser user.role with
    | none => db.violations r.reportedUser
    | some record =>
      some (sessionOf (c.punish numeral r ⟨record.doc, record, c.context.answers⟩)).stored

def Resolution.finds (r : Report) (db : Db) : Bool :=
  (db.users[r.reportedUser]?).any fun user =>
    (db.openRecord c.context r.reportedUser user.role).isSome

variable {numeral : Number → String} {c : Resolution} {id : Nat} {r : Report} {db : Db}
  {s : Session}

theorem punish_of_isPlain (h : c.isPlain) : c.punish numeral r s = .ok s := by
  rw [Resolution.isPlain, Bool.or_eq_true, decide_eq_true_eq, decide_eq_true_eq] at h
  rcases h with h | h
  · rw [Resolution.punish, h]
  · rw [Resolution.punish, h]

theorem updateRecord_of_isPlain (h : c.isPlain) : c.updateRecord numeral id r s = .ok s := by
  simp [Resolution.updateRecord, punish_of_isPlain h, h, bind, Except.bind]

theorem updateRecord_of_not_isPlain (h : c.isPlain = false) :
    ∃ s', c.updateRecord numeral id r s = .error s'
      ∧ s'.stored = (sessionOf (c.punish numeral r s)).stored := by
  unfold Resolution.updateRecord
  cases hpu : c.punish numeral r s with
  | error s' => exact ⟨s', rfl, rfl⟩
  | ok s' =>
    refine ⟨s', ?_, rfl⟩
    simp [h, bind, Except.bind, Session.assign, addViolation_eq_none]

theorem putRecord_self (user : Nat) (record : Record) :
    (db.putRecord user record).violations user = some record := Function.update_self ..

theorem afterReport_violations :
    (c.afterReport numeral id r db).1.violations r.reportedUser = c.recordAfter numeral r db := by
  unfold Resolution.afterReport Resolution.recordAfter
  cases db.users[r.reportedUser]? with
  | none => rfl
  | some user =>
    dsimp only
    cases db.openRecord c.context r.reportedUser user.role with
    | none => rfl
    | some record =>
      dsimp only [Db.callRecord]
      cases hpl : c.isPlain with
      | true =>
        rw [updateRecord_of_isPlain hpl, punish_of_isPlain hpl]
        exact putRecord_self r.reportedUser record
      | false =>
        obtain ⟨s, herr, hst⟩ := updateRecord_of_not_isPlain hpl
        rw [herr, ← hst]
        exact putRecord_self r.reportedUser s.stored

theorem afterReport_isSuccess :
    (c.afterReport numeral id r db).2.isSuccess = (c.isPlain && c.finds r db) := by
  unfold Resolution.afterReport Resolution.finds
  cases db.users[r.reportedUser]? with
  | none => exact (Bool.and_false _).symm
  | some user =>
    dsimp only [Option.any_some]
    cases db.openRecord c.context r.reportedUser user.role with
    | none => exact (Bool.and_false _).symm
    | some =>
      dsimp only [Db.callRecord]
      cases hpl : c.isPlain with
      | true =>
        rw [updateRecord_of_isPlain hpl]
        rfl
      | false =>
        obtain ⟨s, herr, -⟩ := updateRecord_of_not_isPlain hpl
        rw [herr]
        rfl

theorem afterReport_reports : (c.afterReport numeral id r db).1.reports = db.reports := by
  unfold Resolution.afterReport
  split
  · rfl
  · split
    · rfl
    · rename_i record _
      dsimp only [Db.callRecord]
      cases c.updateRecord numeral id r ⟨record.doc, record, c.context.answers⟩ <;> rfl

/-! ## One call -/

structure Unchanged (id user : Nat) (db db' : Db) : Prop where
  report : db'.reports[id]? = db.reports[id]?
  record : db'.violations user = db.violations user

structure Tally where
  entries : Nat
  suspensions : Nat
  strikes : Nat
deriving DecidableEq

def tally (report : Nat) : Option Record → Tally
  | none => ⟨0, 0, 0⟩
  | some r =>
    ⟨r.doc.violations.countP (·.reportId = some report), r.doc.suspensions.length,
      r.doc.strikes.history.length⟩

/-- The resolution is stored, and an action with one new entry. -/
structure Recorded (numeral : Number → String) (id : Nat) (c : Resolution) (report : Report)
    (db db' : Db) : Prop where
  resolution : ∃ resolved, report.resolve numeral c = some resolved
    ∧ db'.reports[id]? = some resolved
  entry : c.isPlain = false → (tally id (db'.violations report.reportedUser)).entries
    = (tally id (db.violations report.reportedUser)).entries + 1

/-- A success is stored as a whole, a failure not at all. -/
def AllOrNothing (numeral : Number → String) (id : Nat) (db : Db) (c : Resolution) : Prop :=
  ∀ report ∈ db.reports[id]?,
    if (resolveReport numeral (.id id) c db).2.isSuccess then
      Recorded numeral id c report db (resolveStep numeral id db c)
    else Unchanged id report.reportedUser db (resolveStep numeral id db c)

/-- The user or the record is missing, or the method for the action stores the record as it is. -/
def Resolution.Spares (numeral : Number → String) (c : Resolution) (r : Report) (db : Db) : Prop :=
  c.finds r db = false ∨ ∃ record, db.violations r.reportedUser = some record
    ∧ (sessionOf (c.punish numeral r ⟨record.doc, record, c.context.answers⟩)).stored = record

/-- The resolution is refused; or there is nothing to punish, and the user and
the record are there; or the report is resolved so already, and the record is
spared. -/
def Harmless (numeral : Number → String) (id : Nat) (db : Db) (c : Resolution) : Prop :=
  ∀ report ∈ db.reports[id]?, ∀ resolved ∈ c.saved? numeral report,
    (c.isPlain && c.finds report db) = true
      ∨ resolved = report ∧ c.Spares numeral report db

variable {report resolved : Report}

theorem recordAfter_eq_iff :
    c.recordAfter numeral r db = db.violations r.reportedUser ↔ c.Spares numeral r db := by
  unfold Resolution.recordAfter Resolution.Spares Resolution.finds
  cases db.users[r.reportedUser]? with
  | none => exact iff_of_true rfl (.inl rfl)
  | some user =>
    dsimp only [Option.any_some]
    cases ho : db.openRecord c.context r.reportedUser user.role with
    | none => exact iff_of_true rfl (.inl rfl)
    | some record =>
      rw [or_iff_right (by simp)]
      cases hrec : db.violations r.reportedUser with
      | none => simp
      | some stored =>
        obtain rfl : stored = record := by
          simpa only [Db.openRecord, hrec, Option.some.injEq] using ho
        simp

theorem saved?_eq_some (h : c.saved? numeral report = some resolved) :
    report.resolve numeral c = some resolved ∧ resolved.reportedUser = report.reportedUser
      ∧ resolved.reportedContent = report.reportedContent := by
  unfold Resolution.saved? at h
  split at h
  · refine ⟨h, ?_⟩
    simp only [Report.resolve, Option.bind_eq_bind, Option.bind_eq_some_iff, Option.pure_def] at h
    obtain ⟨_, _, _, _, _, _, _, _, h⟩ := h
    split at h
    · obtain ⟨_, _, h⟩ := Option.bind_eq_some_iff.mp h
      cases h
      exact ⟨rfl, rfl⟩
    · obtain ⟨_, _, h⟩ := Option.bind_eq_some_iff.mp h
      cases h
      exact ⟨rfl, rfl⟩
  · cases h

theorem resolveReport_of_refused (hrep : db.reports[id]? = some report)
    (h : c.saved? numeral report = none) :
    resolveReport numeral (.id id) c db = (db, .failure 500 failedToResolve) := by
  simp only [resolveReport, hrep, h]

theorem resolveReport_of_saved (hrep : db.reports[id]? = some report)
    (h : c.saved? numeral report = some resolved) : resolveReport numeral (.id id) c db
      = c.afterReport numeral id resolved (db.saveReport id resolved) := by
  simp only [resolveReport, hrep, h]

theorem resolveStep_of_saved (hrep : db.reports[id]? = some report)
    (h : c.saved? numeral report = some resolved) :
    (resolveStep numeral id db c).reports[id]? = some resolved
      ∧ (resolveStep numeral id db c).violations report.reportedUser
        = c.recordAfter numeral report db
      ∧ (resolveReport numeral (.id id) c db).2.isSuccess = (c.isPlain && c.finds report db) := by
  obtain ⟨-, hu, hc⟩ := saved?_eq_some h
  have hlt : id < db.reports.length := (List.getElem?_eq_some_iff.mp hrep).1
  rw [resolveStep, resolveReport_of_saved hrep h, afterReport_reports, afterReport_isSuccess]
  refine ⟨List.getElem?_set_self hlt, ?_, ?_⟩
  · rw [← hu, afterReport_violations]
    unfold Resolution.recordAfter Resolution.punish
    rw [hu, hc]
    rfl
  · unfold Resolution.finds
    rw [hu]
    rfl

theorem allOrNothing_iff_harmless (db : Db)
    (c : Resolution) : AllOrNothing numeral id db c ↔ Harmless numeral id db c := by
  refine forall₂_congr fun report hrep => ?_
  cases hsv : c.saved? numeral report with
  | none =>
    rw [resolveStep, resolveReport_of_refused hrep hsv]
    exact iff_of_true ⟨rfl, rfl⟩ fun resolved h => by cases h
  | some resolved =>
    obtain ⟨hre, hrec, hsu⟩ := resolveStep_of_saved hrep hsv
    simp only [Option.mem_some_iff, forall_eq']
    rw [hsu]
    cases hpl : c.isPlain && c.finds report db with
    | true =>
      rw [if_pos rfl]
      refine iff_of_true ⟨⟨resolved, (saved?_eq_some hsv).1, hre⟩, ?_⟩ (.inl rfl)
      intro hpu
      rw [hpu] at hpl
      cases hpl
    | false =>
      rw [if_neg Bool.false_ne_true]
      constructor
      · intro hs
        refine .inr ⟨?_, recordAfter_eq_iff.mp (hrec.symm.trans hs.record)⟩
        exact Option.mem_unique hre (hs.report.trans hrep)
      · rintro (hno | ⟨heq, hs⟩)
        · cases hno
        · exact ⟨hre.trans (heq ▸ hrep.symm), hrec.trans (recordAfter_eq_iff.mpr hs)⟩

theorem tally_recordAfter_of_isPlain (h : c.isPlain) :
    tally id (c.recordAfter numeral report db) = tally id (db.violations report.reportedUser) := by
  unfold Resolution.recordAfter
  cases db.users[report.reportedUser]? with
  | none => rfl
  | some user =>
    dsimp only
    cases ho : db.openRecord c.context report.reportedUser user.role with
    | none => rfl
    | some =>
      dsimp only
      rw [punish_of_isPlain h]
      cases hrec : db.violations report.reportedUser with
      | some =>
        simp only [Db.openRecord, hrec, Option.some.injEq] at ho
        rw [ho]
        rfl
      | none =>
        simp only [Db.openRecord, hrec, Option.ite_none_right_eq_some, Option.some.injEq] at ho
        rw [← ho.2]
        rfl

/-! ## Sequences of calls -/

/-- The report names the user, and the user's record holds what it held. -/
def Steady (id user : Nat) (held : Tally) (db : Db) : Prop :=
  (∃ report, db.reports[id]? = some report ∧ report.reportedUser = user)
    ∧ tally id (db.violations user) = held

theorem steady_resolveStep {user : Nat} {held : Tally} (hs : Steady id user held db)
    (h : Harmless numeral id db c) : Steady id user held (resolveStep numeral id db c) := by
  obtain ⟨⟨report, hrep, hu⟩, hhe⟩ := hs
  cases hsv : c.saved? numeral report with
  | none =>
    rw [resolveStep, resolveReport_of_refused hrep hsv]
    exact ⟨⟨report, hrep, hu⟩, hhe⟩
  | some resolved =>
    obtain ⟨hre, hrec, -⟩ := resolveStep_of_saved hrep hsv
    refine ⟨⟨resolved, hre, (saved?_eq_some hsv).2.1.trans hu⟩, ?_⟩
    rw [← hu] at hhe ⊢
    rw [hrec]
    rcases h report hrep resolved hsv with hpl | ⟨-, hsm⟩
    · rw [Bool.and_eq_true] at hpl
      exact (tally_recordAfter_of_isPlain hpl.1).trans hhe
    · rwa [recordAfter_eq_iff.mpr hsm]

/-- The record of the user holds at most one more of each than in `db`. -/
structure AtMostOneMore (id user : Nat) (db db' : Db) : Prop where
  entries : (tally id (db'.violations user)).entries ≤ (tally id (db.violations user)).entries + 1
  suspensions : (tally id (db'.violations user)).suspensions
    ≤ (tally id (db.violations user)).suspensions + 1
  strikes : (tally id (db'.violations user)).strikes ≤ (tally id (db.violations user)).strikes + 1

theorem Steady.atMostOneMore {user : Nat} {db' : Db}
    (h : Steady id user (tally id (db.violations user)) db') : AtMostOneMore id user db db' := by
  constructor <;> rw [h.2] <;> exact Nat.le_succ _

/-- A sequence of calls on a report punishes at most once and records every
call as a whole exactly when each call is harmless. -/
theorem resolutions_recorded_once_iff (numeral : Number → String) (id : Nat) (db : Db)
    (report : Report) (hreport : db.reports[id]? = some report) (calls : List Resolution) :
    (Runs.Always (resolveStep numeral id) (AtMostOneMore id report.reportedUser db) db calls
        ∧ Runs.Every (resolveStep numeral id) (AllOrNothing numeral id) db calls)
      ↔ Runs.Every (resolveStep numeral id) (Harmless numeral id) db calls := by
  have hcal : Runs.Every (resolveStep numeral id) (AllOrNothing numeral id) db calls
      ↔ Runs.Every (resolveStep numeral id) (Harmless numeral id) db calls :=
    Runs.every_congr allOrNothing_iff_harmless
  rw [hcal]
  refine ⟨And.right, fun h => ⟨?_, h⟩⟩
  have hs : Steady id report.reportedUser (tally id (db.violations report.reportedUser)) db :=
    ⟨⟨report, hreport, rfl⟩, rfl⟩
  have hste : Runs.Always (resolveStep numeral id)
      (Steady id report.reportedUser (tally id (db.violations report.reportedUser))) db calls :=
    Runs.always_of_every (fun _ _ => steady_resolveStep) hs h
  exact Runs.always_mono (fun _ => Steady.atMostOneMore) hste

def spamReport : Report :=
  ⟨.spam, .low, .pending, 0, none, none, none, ⟨none, none, none⟩, false, none⟩

def spamDb : Db := { memberDb with reports := [spamReport] }

def resolution (action : String) : Resolution :=
  ⟨⟨0, .id 0, true, [], true, true⟩, .str action, .str "Spam", .undefined, .undefined⟩

theorem dismissals_recorded :
    spamDb.reports[0]? = some spamReport
      ∧ Runs.Always (resolveStep Number.toFixed2 0) (AtMostOneMore 0 0 spamDb) spamDb
        [resolution "no_action", resolution "false_report"]
      ∧ Runs.Every (resolveStep Number.toFixed2 0) (AllOrNothing Number.toFixed2 0) spamDb
        [resolution "no_action", resolution "false_report"] := by
  refine ⟨rfl, (resolutions_recorded_once_iff Number.toFixed2 0 spamDb spamReport rfl
    [resolution "no_action", resolution "false_report"]).mpr ⟨?_, ?_, trivial⟩⟩
  · rintro report ⟨⟩ resolved -
    exact .inl (by decide +kernel)
  · rintro report ⟨⟩ resolved -
    exact .inl (by decide +kernel)

theorem failed_resolution_suspends :
    let call := resolution "user_suspended_24h"
    let after := resolveReport Number.toFixed2 (.id 0) call spamDb
    after.2 = .failure 500 "Failed to resolve report" ∧ after.1.reports.map (·.status) = [.resolved]
      ∧ (Runs.states (resolveStep Number.toFixed2 0) spamDb [call, call]).map
          (fun db => tally 0 (db.violations 0))
        = [⟨0, 0, 0⟩, ⟨0, 1, 0⟩, ⟨0, 2, 0⟩]
      ∧ ¬ AllOrNothing Number.toFixed2 0 spamDb call := by
  refine ⟨by decide +kernel, by decide +kernel, by decide +kernel, fun h => ?_⟩
  have hs := h spamReport rfl
  rw [if_neg (by decide +kernel)] at hs
  have hsta := congrArg (Option.map Report.status) hs.report
  revert hsta
  decide +kernel

end SexySelfies.Moderation
