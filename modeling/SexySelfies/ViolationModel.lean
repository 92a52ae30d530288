import SexySelfies.Platform

/-!
# The moderation record of a user

`models/UserViolation.js`: strikes, suspensions, bans, warnings and the risk score, with the methods
that change them. A `Session` is a call in progress on a document in memory. A method returns the
session, or throws and leaves it as it was then. An argument that does not cast is thrown by the
next `save`; nothing is stored in between, so the assignment itself throws here.
-/

namespace SexySelfies.Violations

open Js Platform

/-! ## Documents -/

inductive Status where
  | goodStanding | warned | suspended | banned | underReview
deriving DecidableEq

inductive Severity where
  | minor | moderate | major | severe

inductive WarningSeverity where
  | info | caution | final

inductive SuspensionType where
  | temporary | permanent

inductive ViolationType where
  | contentViolation | harassment | spam | fakeAccount | underageContent | copyright | violence
  | hateSpeech | termsViolation | paymentFraud | banEvasion | other

def ViolationType.names : List (String × ViolationType) :=
  [("content_violation", .contentViolation), ("harassment", .harassment), ("spam", .spam),
   ("fake_account", .fakeAccount), ("underage_content", .underageContent),
   ("copyright", .copyright), ("violence", .violence), ("hate_speech", .hateSpeech),
   ("terms_violation", .termsViolation), ("payment_fraud", .paymentFraud),
   ("ban_evasion", .banEvasion), ("other", .other)]

def Severity.names : List (String × Severity) :=
  [("minor", .minor), ("moderate", .moderate), ("major", .major), ("severe", .severe)]

structure Violation where
  reportId : Option Nat
  type : ViolationType
  severity : Severity
  description : Option String
  issuedBy : Nat
  issuedAt : ℤ

structure Strike where
  count : ℚ
  reason : Option String
  issuedAt : ℤ
  expiresAt : ℤ
  expired : Bool

structure Strikes where
  current : ℚ := 0
  total : ℚ := 0
  history : List Strike := []

structure Suspension where
  type : SuspensionType
  duration : Option Number
  reason : Option String
  startDate : ℤ
  endDate : ℤ
  issuedBy : Option Nat
  lifted : Bool := false
  liftedBy : Option Nat := none
  liftedAt : Option ℤ := none
  liftReason : Option String := none

structure Restrictions where
  canUploadContent : Bool := true
  canMessage : Bool := true
  canComment : Bool := true
  canWithdraw : Bool := true
  payoutsFrozen : Bool := false
  frozenUntil : Option ℤ := none

structure Warning where
  message : Option String
  severity : Option WarningSeverity
  issuedBy : Option Nat
  issuedAt : ℤ

structure UserViolation where
  violations : List Violation := []
  strikes : Strikes := {}
  suspensions : List Suspension := []
  currentStatus : Status := .goodStanding
  suspendedUntil : Option ℤ := none
  bannedAt : Option ℤ := none
  banReason : Option String := none
  bannedBy : Option Nat := none
  restrictions : Restrictions := {}
  warnings : List Warning := []
  riskScore : ℚ := 0

/-- The bounds of the schema. -/
structure UserViolation.Valid (d : UserViolation) : Prop where
  current_nonneg : 0 ≤ d.strikes.current
  current_le : d.strikes.current ≤ 3
  riskScore_nonneg : 0 ≤ d.riskScore
  riskScore_le : d.riskScore ≤ 100

instance (d : UserViolation) : Decidable d.Valid :=
  decidable_of_iff
    ((0 ≤ d.strikes.current ∧ d.strikes.current ≤ 3) ∧ 0 ≤ d.riskScore ∧ d.riskScore ≤ 100)
    ⟨fun h => ⟨h.1.1, h.1.2, h.2.1, h.2.2⟩, fun h => ⟨⟨h.1, h.2⟩, h.3, h.4⟩⟩

@[ext] structure Record where
  doc : UserViolation
  valid : doc.Valid

theorem valid_new : ({} : UserViolation).Valid := by decide +kernel

def newRecord : Record := ⟨{}, valid_new⟩

def hour : ℚ := 60 * 60 * 1000

def day : ℚ := 24 * hour

/-- `new Date(Date.now() + n * unit)`, in milliseconds; `none` is an invalid
date. -/
def dateAfter (now : ℤ) (n : Number) (unit : ℚ) : Option ℤ :=
  match n with
  | .fin q =>
    let t := now + q * unit
    if |t| ≤ 8640000000000000 then some (t.num.tdiv t.den) else none
  | _ => none

/-! ## What the methods assign -/

variable (numeral : Number → String)

/-- The record gets one more strike; `duration = 90` is the default. -/
def UserViolation.struck (now : ℤ) (reason duration : Value)
    (d : UserViolation) : Option UserViolation := do
  let duration := match duration with
    | .undefined => .fin 90
    | v => v.toNumber
  let expiresAt ← dateAfter now duration day
  let reason ← castString numeral reason
  let current := d.strikes.current + 1
  return { d with
    strikes :=
      { current
        total := d.strikes.total + 1
        history := d.strikes.history
          ++ [{ count := current, reason, issuedAt := now, expiresAt, expired := false }] } }

def UserViolation.suspended (now : ℤ) (hours reason : Value)
    (adminId : Ref) (d : UserViolation) : Option UserViolation := do
  let endDate ← dateAfter now hours.toNumber hour
  let duration ← castNumber hours
  let reason ← castString numeral reason
  let issuedBy ← adminId.stored
  return { d with
    suspensions := d.suspensions
      ++ [{ type := .temporary, duration, reason, startDate := now, endDate, issuedBy }]
    currentStatus := .suspended
    suspendedUntil := some endDate
    restrictions :=
      { d.restrictions with canUploadContent := false, canMessage := false, canComment := false } }

def UserViolation.banned (now : ℤ) (reason : Value) (adminId : Ref)
    (d : UserViolation) : Option UserViolation := do
  let banReason ← castString numeral reason
  let bannedBy ← adminId.stored
  return { d with
    currentStatus := .banned
    bannedAt := some now
    banReason
    bannedBy
    restrictions :=
      { d.restrictions with
        canUploadContent := false, canMessage := false, canComment := false, canWithdraw := false,
        payoutsFrozen := true }
    riskScore := 100 }

def UserViolation.lifted (now : ℤ) (adminId : Ref) (reason : Value)
    (d : UserViolation) : Option UserViolation := do
  let liftedBy ← adminId.stored
  let liftReason ← castString numeral reason
  return { d with
    suspensions := d.suspensions.modify (d.suspensions.length - 1) fun s =>
      { s with lifted := true, liftedBy, liftedAt := some now, liftReason }
    currentStatus := if 0 < d.strikes.current then .warned else .goodStanding
    suspendedUntil := none
    restrictions :=
      { d.restrictions with canUploadContent := true, canMessage := true, canComment := true } }

def WarningSeverity.names : List (String × WarningSeverity) :=
  [("info", .info), ("caution", .caution), ("final", .final)]

/-- `enum: ['info', 'caution', 'final'], default: 'caution'`. -/
def castSeverity : Value → Option (Option WarningSeverity)
  | .undefined => some (some .caution)
  | v =>
    match castString numeral v with
    | none => none
    | some none => some none
    | some (some text) => (WarningSeverity.names.lookup text).map some

def UserViolation.cautioned (now : ℤ) (message severity : Value)
    (adminId : Ref) (d : UserViolation) : Option UserViolation := do
  let message ← castString numeral message
  let severity ← castSeverity numeral severity
  let issuedBy ← adminId.stored
  return { d with
    warnings := d.warnings ++ [{ message, severity, issuedBy, issuedAt := now }]
    currentStatus := if d.currentStatus = .goodStanding then .warned else d.currentStatus }

def UserViolation.frozen (now : ℤ) (days : Value) (d : UserViolation) : Option UserViolation := do
  let frozenUntil ← dateAfter now days.toNumber day
  return { d with
    restrictions := { d.restrictions with payoutsFrozen := true, frozenUntil := some frozenUntil } }

/-- The loop over the history: the strikes that have run out are marked, and
each takes one off `current` while that is positive; the flag is
`strikesRemoved`. -/
def expireStrikes (now : ℤ) : List Strike → ℚ → Bool → List Strike × ℚ × Bool
  | [], current, removed => ([], current, removed)
  | strike :: rest, current, removed =>
    if !strike.expired && strike.expiresAt < now then
      let tail :=
        if 0 < current then expireStrikes now rest (current - 1) true
        else expireStrikes now rest current removed
      ({ strike with expired := true } :: tail.1, tail.2)
    else
      let tail := expireStrikes now rest current removed
      (strike :: tail.1, tail.2)

/-- The document after the loop, and whether a strike was removed. The status
is only looked at if one was. -/
def UserViolation.expire (now : ℤ) (d : UserViolation) : UserViolation × Bool :=
  let (history, current, removed) := expireStrikes now d.strikes.history d.strikes.current false
  ({ d with
     strikes := { d.strikes with current, history }
     currentStatus :=
       if removed = true ∧ current = 0 ∧ d.currentStatus = .warned then .goodStanding
       else d.currentStatus },
   removed)

def Severity.weight : Severity → ℚ
  | .severe => 25
  | .major => 15
  | .moderate => 10
  | .minor => 5

def UserViolation.score (now : ℤ) (d : UserViolation) : ℚ :=
  let recent := d.violations.filter fun v => (now : ℚ) - 30 * day < v.issuedAt
  let score := d.violations.length * 10 + d.strikes.current * 20 + recent.length * 15
    + (d.violations.map fun v => v.severity.weight).sum
  let score :=
    match d.currentStatus with
    | .banned => 100
    | .suspended => max score 75
    | _ => score
  min score 100

def UserViolation.scored (now : ℤ) (d : UserViolation) : UserViolation :=
  { d with riskScore := d.score now }

/-! ## Calls -/

/-- A call in progress: the document in memory, the stored record, and what
the database answers to the saves to come, `true` when the list ends. -/
structure Session where
  doc : UserViolation
  stored : Record
  answers : List Bool

def Session.assign (f : UserViolation → Option UserViolation) (s : Session) :
    Except Session Session :=
  match f s.doc with
  | some d => .ok { s with doc := d }
  | none => .error s

def save (s : Session) : Except Session Session :=
  if h : s.doc.Valid then
    if s.answers.headD true then .ok ⟨s.doc, ⟨s.doc, h⟩, s.answers.tail⟩ else .error s
  else .error s

def calculateRiskScore (now : ℤ) (s : Session) : Except Session Session :=
  save { s with doc := s.doc.scored now }

variable (numeral : Number → String) (now : ℤ)

def suspend (hours reason : Value) (adminId : Ref) (s : Session) : Except Session Session := do
  let s ← s.assign fun d => d.suspended numeral now hours reason adminId
  let s ← calculateRiskScore now s
  save s

def ban (reason : Value) (adminId : Ref) (s : Session) : Except Session Session := do
  let s ← s.assign fun d => d.banned numeral now reason adminId
  save s

variable (adminId : Ref)

def escalate (s : Session) : Except Session Session :=
  if s.doc.strikes.current = 1 then .ok { s with doc := { s.doc with currentStatus := .warned } }
  else if s.doc.strikes.current = 2 then
    suspend numeral now (.num (.fin (7 * 24))) (.str "Second strike - 7 day suspension") adminId s
  else if 3 ≤ s.doc.strikes.current then
    ban numeral now (.str "Three strikes - permanent ban") adminId s
  else .ok s

def addStrike (reason : Value) (adminId : Ref) (duration : Value) (s : Session) :
    Except Session Session := do
  let s ← s.assign fun d => d.struck numeral now reason duration
  let s ← escalate numeral now adminId s
  let s ← calculateRiskScore now s
  save s

def liftSuspension (reason : Value) (s : Session) : Except Session Session :=
  if s.doc.currentStatus = .suspended ∧ 0 < s.doc.suspensions.length then do
    let s ← s.assign fun d => d.lifted numeral now adminId reason
    let s ← calculateRiskScore now s
    save s
  else .ok s

def addWarning (message severity : Value) (adminId : Ref) (s : Session) :
    Except Session Session := do
  let s ← s.assign fun d => d.cautioned numeral now message severity adminId
  let s ← calculateRiskScore now s
  save s

def freezePayouts (days : Value) (_adminId : Ref) (s : Session) : Except Session Session := do
  let s ← s.assign fun d => d.frozen now days
  save s

variable (s : Session)

def checkExpiredStrikes : Except Session Session :=
  let (d, strikesRemoved) := s.doc.expire now
  if strikesRemoved then do
    let s ← calculateRiskScore now { s with doc := d }
    save s
  else .ok { s with doc := d }

inductive Method where
  | addStrike (reason : Value) (adminId : Ref) (duration : Value)
  | suspend (hours reason : Value) (adminId : Ref)
  | ban (reason : Value) (adminId : Ref)
  | liftSuspension (adminId : Ref) (reason : Value)
  | addWarning (message severity : Value) (adminId : Ref)
  | freezePayouts (days : Value) (adminId : Ref)
  | checkExpiredStrikes

def Method.run (now : ℤ) : Method → Session → Except Session Session
  | .addStrike reason adminId duration => Violations.addStrike numeral now reason adminId duration
  | .suspend hours reason adminId => Violations.suspend numeral now hours reason adminId
  | .ban reason adminId => Violations.ban numeral now reason adminId
  | .liftSuspension adminId reason => Violations.liftSuspension numeral now adminId reason
  | .addWarning message severity adminId =>
    Violations.addWarning numeral now message severity adminId
  | .freezePayouts days adminId => Violations.freezePayouts now days adminId
  | .checkExpiredStrikes => Violations.checkExpiredStrikes now

structure Call where
  now : ℤ
  method : Method
  answers : List Bool

def Call.start (c : Call) (r : Record) : Session := ⟨r.doc, r, c.answers⟩

def sessionOf : Except Session Session → Session
  | .ok s => s
  | .error s => s

def step (r : Record) (c : Call) : Record :=
  (sessionOf (c.method.run numeral c.now (c.start r))).stored

/-! ## What a call stores -/

def UserViolation.escalated (d : UserViolation) : Option UserViolation :=
  if d.strikes.current = 1 then some { d with currentStatus := .warned }
  else if d.strikes.current = 2 then
    d.suspended numeral now (.num (.fin (7 * 24))) (.str "Second strike - 7 day suspension") adminId
  else if 3 ≤ d.strikes.current then
    d.banned numeral now (.str "Three strikes - permanent ban") adminId
  else some d

def Method.document (d : UserViolation) : Method → Option UserViolation
  | .addStrike reason adminId duration =>
    ((d.struck numeral now reason duration).bind
      fun d => d.escalated numeral now adminId).map fun d => d.scored now
  | .suspend hours reason adminId =>
    (d.suspended numeral now hours reason adminId).map fun d => d.scored now
  | .ban reason adminId => d.banned numeral now reason adminId
  | .liftSuspension adminId reason =>
    if d.currentStatus = .suspended ∧ 0 < d.suspensions.length then
      (d.lifted numeral now adminId reason).map fun d => d.scored now
    else none
  | .addWarning message severity adminId =>
    (d.cautioned numeral now message severity adminId).map fun d => d.scored now
  | .freezePayouts days _ => d.frozen now days
  | .checkExpiredStrikes =>
    if (d.expire now).2 then some ((d.expire now).1.scored now) else none

def Session.Takes (d : UserViolation) : Prop :=
  d.Valid ∧ s.answers.headD true = true

instance (s : Session) (d : UserViolation) : Decidable (s.Takes d) :=
  inferInstanceAs (Decidable (_ ∧ _))

def Session.store : Option UserViolation → Record
  | none => s.stored
  | some d => if h : s.Takes d then ⟨d, h.1⟩ else s.stored

variable {d : UserViolation} {s : Session}

theorem store_of_takes (h : s.Takes d) : s.store (some d) = ⟨d, h.1⟩ := dif_pos h

theorem store_of_not_takes (h : ¬ s.Takes d) : s.store (some d) = s.stored := dif_neg h

theorem scored_banned {numeral : Number → String} {now : ℤ} {reason : Value} {adminId : Ref}
    {e : UserViolation} (h : d.banned numeral now reason adminId = some e) : e.scored now = e := by
  simp only [UserViolation.banned, Option.bind_eq_bind, Option.bind_eq_some_iff, Option.pure_def,
    Option.some.injEq] at h
  obtain ⟨_, _, _, _, rfl⟩ := h
  simp [UserViolation.scored, UserViolation.score]

variable {adminId : Ref} (now : ℤ)

theorem map_scored_banned (reason : Value) :
    ((d.banned numeral now reason adminId).map fun e => e.scored now)
      = d.banned numeral now reason adminId := by
  cases h : d.banned numeral now reason adminId with
  | none => rfl
  | some => rw [Option.map_some, scored_banned h]

theorem escalated_of_three (h : 3 ≤ d.strikes.current) :
    d.escalated numeral now adminId
      = d.banned numeral now (.str "Three strikes - permanent ban") adminId := by
  have hone : d.strikes.current ≠ 1 := by linarith
  have htwo : d.strikes.current ≠ 2 := by linarith
  rw [UserViolation.escalated, if_neg hone, if_neg htwo, if_pos h]

theorem save_of_takes (h : s.Takes s.doc) : save s = .ok ⟨s.doc, ⟨s.doc, h.1⟩, s.answers.tail⟩ := by
  rw [save, dif_pos h.1, if_pos h.2]

theorem save_of_not_takes (h : ¬ s.Takes s.doc) : save s = .error s := by
  unfold save
  split
  · rename_i hv
    exact if_neg fun hans => h ⟨hv, hans⟩
  · rfl

theorem stored_save : (sessionOf (save s)).stored = s.store (some s.doc) := by
  by_cases h : s.Takes s.doc
  · rw [save_of_takes h, store_of_takes h]
    rfl
  · rw [save_of_not_takes h, store_of_not_takes h]
    rfl

/-- After a save the stored record is the document, and its score is that of
the call's time. -/
def Settled (outcome : Except Session Session) : Prop :=
  ∀ s, outcome = .ok s → s.stored.doc = s.doc ∧ s.doc.scored now = s.doc

section

variable {now : ℤ} {outcome : Except Session Session}

theorem settled_error : Settled now (.error s) := by
  intro t ht
  cases ht

theorem settled_save (h : s.doc.scored now = s.doc) : Settled now (save s) := by
  by_cases htk : s.Takes s.doc
  · rw [save_of_takes htk]
    intro t ht
    cases ht
    exact ⟨rfl, h⟩
  · rw [save_of_not_takes htk]
    exact settled_error

theorem Settled.saved (h : Settled now outcome) : Settled now (outcome >>= save)
      ∧ (sessionOf (outcome >>= save)).stored = (sessionOf outcome).stored := by
  cases outcome with
  | error => exact ⟨settled_error, rfl⟩
  | ok s =>
    obtain ⟨hst, hsc⟩ := h s rfl
    refine ⟨settled_save hsc, stored_save.trans ?_⟩
    by_cases ht : s.Takes s.doc
    · rw [store_of_takes ht]
      exact Record.ext hst.symm
    · exact store_of_not_takes ht

theorem Settled.scored (h : Settled now outcome) : Settled now (outcome >>= calculateRiskScore now)
      ∧ (sessionOf (outcome >>= calculateRiskScore now)).stored = (sessionOf outcome).stored := by
  have hbi : (outcome >>= calculateRiskScore now) = (outcome >>= save) := by
    cases outcome with
    | error => rfl
    | ok s =>
      have hsc : s.doc.scored now = s.doc := (h s rfl).2
      show save { s with doc := s.doc.scored now } = save s
      rw [hsc]
  rw [hbi]
  exact h.saved

theorem stored_scored : Settled now (calculateRiskScore now s >>= save)
      ∧ (sessionOf (calculateRiskScore now s >>= save)).stored
        = s.store (some (s.doc.scored now)) := by
  have hse : Settled now (calculateRiskScore now s) := settled_save rfl
  have hst : (sessionOf (calculateRiskScore now s)).stored
      = s.store (some (s.doc.scored now)) := stored_save
  exact ⟨hse.saved.1, hse.saved.2.trans hst⟩

end

theorem stored_assign_scored (f : UserViolation → Option UserViolation) (s : Session) :
    Settled now (s.assign f >>= fun s => calculateRiskScore now s >>= save)
      ∧ (sessionOf (s.assign f >>= fun s => calculateRiskScore now s >>= save)).stored
        = s.store ((f s.doc).map fun d => d.scored now) := by
  unfold Session.assign
  cases f s.doc with
  | none => exact ⟨settled_error, rfl⟩
  | some => exact stored_scored

theorem stored_ban (reason : Value) (adminId : Ref) (s : Session) :
    Settled now (ban numeral now reason adminId s)
      ∧ (sessionOf (ban numeral now reason adminId s)).stored
        = s.store (s.doc.banned numeral now reason adminId) := by
  unfold ban Session.assign
  dsimp only
  cases hban : s.doc.banned numeral now reason adminId with
  | none => exact ⟨settled_error, rfl⟩
  | some => exact ⟨settled_save (scored_banned hban), stored_save⟩

theorem Settled.rescored {now : ℤ} {outcome : Except Session Session} (h : Settled now outcome) :
    (sessionOf (outcome >>= fun s => calculateRiskScore now s >>= save)).stored
      = (sessionOf outcome).stored := by
  have hsc := h.scored
  rw [← bind_assoc, hsc.1.saved.2, hsc.2]

theorem stored_escalate (adminId : Ref) (s : Session) : (sessionOf (escalate numeral now adminId s
        >>= fun s => calculateRiskScore now s >>= save)).stored
      = s.store ((s.doc.escalated numeral now adminId).map fun d => d.scored now) := by
  unfold escalate UserViolation.escalated
  by_cases hone : s.doc.strikes.current = 1
  · rw [if_pos hone, if_pos hone]
    exact stored_scored.2
  by_cases htwo : s.doc.strikes.current = 2
  · simp only [if_neg hone, if_pos htwo]
    have hsu := stored_assign_scored now (fun d => d.suspended numeral now
      (.num (.fin (7 * 24))) (.str "Second strike - 7 day suspension") adminId) s
    exact hsu.1.rescored.trans hsu.2
  by_cases hthr : 3 ≤ s.doc.strikes.current
  · simp only [if_neg hone, if_neg htwo, if_pos hthr]
    have hban := stored_ban numeral now (.str "Three strikes - permanent ban") adminId s
    rw [hban.1.rescored, hban.2, map_scored_banned]
  · simp only [if_neg hone, if_neg htwo, if_neg hthr]
    exact stored_scored.2

theorem stored_run (m : Method) :
    (sessionOf (m.run numeral now s)).stored = s.store (m.document numeral now s.doc) := by
  cases m with
  | addStrike reason adminId du =>
    unfold Method.run Method.document addStrike Session.assign
    dsimp only
    cases s.doc.struck numeral now reason du with
    | none => rfl
    | some d => exact stored_escalate numeral now adminId { s with doc := d }
  | suspend => exact (stored_assign_scored now _ s).2
  | ban reason adminId => exact (stored_ban numeral now reason adminId s).2
  | liftSuspension =>
    unfold Method.run Method.document liftSuspension
    dsimp only
    by_cases h : s.doc.currentStatus = .suspended ∧ 0 < s.doc.suspensions.length
    · rw [if_pos h, if_pos h]
      exact (stored_assign_scored now _ s).2
    · rw [if_neg h, if_neg h]
      rfl
  | addWarning => exact (stored_assign_scored now _ s).2
  | freezePayouts days adminId =>
    unfold Method.run Method.document freezePayouts Session.assign
    dsimp only
    cases s.doc.frozen now days with
    | none => rfl
    | some => exact stored_save
  | checkExpiredStrikes =>
    unfold Method.run Method.document checkExpiredStrikes
    dsimp only
    cases (s.doc.expire now).2 with
    | false => rfl
    | true => exact stored_scored.2

def Call.saves (r : Record) (c : Call) : Bool :=
  (c.method.document numeral c.now r.doc).any fun d => (c.start r).Takes d

section

variable {numeral : Number → String} {r : Record} {c : Call}

theorem saves_iff : c.saves numeral r
    ↔ ∃ e, c.method.document numeral c.now r.doc = some e ∧ (c.start r).Takes e := by
  simp only [Call.saves, Option.any_eq_true, decide_eq_true_eq]

theorem step_of_saves (h : c.saves numeral r) :
    c.method.document numeral c.now r.doc = some (step numeral r c).doc := by
  obtain ⟨e, hdoc, ht⟩ := saves_iff.mp h
  have hs : step numeral r c = ⟨e, ht.1⟩ := by
    rw [step, stored_run]
    exact (congrArg _ hdoc).trans (store_of_takes ht)
  rw [hdoc, hs]

theorem step_of_not_saves (h : c.saves numeral r = false) : step numeral r c = r := by
  rw [step, stored_run]
  cases hdoc : c.method.document numeral c.now r.doc with
  | none => exact congrArg _ hdoc
  | some e =>
    have ht : ¬ (c.start r).Takes e := by
      intro ht
      rw [saves_iff.mpr ⟨e, hdoc, ht⟩] at h
      cases h
    exact (congrArg _ hdoc).trans (store_of_not_takes ht)

end

end SexySelfies.Violations
