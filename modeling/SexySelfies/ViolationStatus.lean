import SexySelfies.Runs
import SexySelfies.ViolationModel

/-!
# Status and restrictions

A ban should be for ever, and the permissions to upload, to message and to comment should be
withdrawn exactly while the user is suspended or banned. Two methods assign the status without
looking at the old one: a first strike makes it `warned` and leaves the permissions alone, and
`suspend`, or a second strike, overwrites a ban.
-/

namespace SexySelfies.Violations

open Js Platform UserViolation

def UserViolation.barred (d : UserViolation) : Bool :=
  d.currentStatus = .suspended || d.currentStatus = .banned

/-- The permissions are withdrawn exactly while barred. -/
structure Coherent (d : UserViolation) : Prop where
  upload : d.restrictions.canUploadContent = !d.barred
  message : d.restrictions.canMessage = !d.barred
  comment : d.restrictions.canComment = !d.barred

/-- Banned, with no permissions left. -/
structure Excluded (d : UserViolation) : Prop where
  status : d.currentStatus = .banned
  upload : d.restrictions.canUploadContent = false
  message : d.restrictions.canMessage = false
  comment : d.restrictions.canComment = false
  withdraw : d.restrictions.canWithdraw = false

variable (numeral : Number → String)

def Call.bans (r : Record) (c : Call) : Bool :=
  match c.method with
  | .ban reason adminId => (ban numeral c.now reason adminId (c.start r)).isOk
  | .addStrike reason adminId duration =>
    match (c.start r).assign fun d => d.struck numeral c.now reason duration with
    | .ok s =>
      3 ≤ s.doc.strikes.current
        && (ban numeral c.now (.str "Three strikes - permanent ban") adminId s).isOk
    | .error _ => false
  | _ => false

structure Watched where
  record : Record
  banned : Bool

def watch (w : Watched) (c : Call) : Watched :=
  ⟨step numeral w.record c, w.banned || c.bans numeral w.record⟩

/-- Coherent, and a ban lasts. -/
structure Standing (w : Watched) : Prop where
  coherent : Coherent w.record.doc
  lasting : w.banned = true → Excluded w.record.doc

def StrikeKeeps (w : Watched) (c : Call) : Prop :=
  match c.method with
  | .addStrike _ _ _ =>
    w.record.doc.currentStatus = .suspended → (step numeral w.record c).doc.barred = true
  | _ => True

/-! ## What a saved call does -/

structure Suspends (e : UserViolation) : Prop where
  status : e.currentStatus = .suspended
  upload : e.restrictions.canUploadContent = false
  message : e.restrictions.canMessage = false
  comment : e.restrictions.canComment = false

structure Frees (e : UserViolation) : Prop where
  status : e.barred = false
  upload : e.restrictions.canUploadContent = true
  message : e.restrictions.canMessage = true
  comment : e.restrictions.canComment = true

structure SamePermissions (d e : UserViolation) : Prop where
  upload : e.restrictions.canUploadContent = d.restrictions.canUploadContent
  message : e.restrictions.canMessage = d.restrictions.canMessage
  comment : e.restrictions.canComment = d.restrictions.canComment
  withdraw : e.restrictions.canWithdraw = d.restrictions.canWithdraw

/-- The status changes at most among those that bar from nothing. -/
structure Keeps (d e : UserViolation) : Prop extends SamePermissions d e where
  status : e.currentStatus = d.currentStatus ∨ d.barred = false ∧ e.barred = false

structure Warns (d e : UserViolation) : Prop extends SamePermissions d e where
  status : e.currentStatus = .warned

/-- What becomes of the document `d` when the call saves `e`. -/
def Effect (d e : UserViolation) : Method → Prop
  | .addStrike _ _ _ =>
    d.strikes.current = 0 ∧ Warns d e
      ∨ d.strikes.current = 1 ∧ Suspends e
      ∨ 2 ≤ d.strikes.current ∧ Excluded e
      ∨ (d.strikes.current ≠ 0 ∧ d.strikes.current ≠ 1 ∧ ¬ 2 ≤ d.strikes.current) ∧ Keeps d e
  | .suspend _ _ _ => Suspends e
  | .ban _ _ => Excluded e
  | .liftSuspension _ _ => d.currentStatus = .suspended ∧ Frees e
  | .addWarning _ _ _ => Keeps d e
  | .freezePayouts _ _ => Keeps d e
  | .checkExpiredStrikes => Keeps d e

variable {numeral : Number → String} {now : ℤ} {reason : Value} {adminId : Ref}
  {d e : UserViolation}

theorem samePermissions_of_eq (h : e.restrictions = d.restrictions) : SamePermissions d e :=
  ⟨by rw [h], by rw [h], by rw [h], by rw [h]⟩

theorem suspends_of_suspended {hours : Value}
    (h : d.suspended numeral now hours reason adminId = some e) : Suspends (e.scored now) := by
  simp only [UserViolation.suspended, Option.bind_eq_bind, Option.bind_eq_some_iff,
    Option.pure_def, Option.some.injEq] at h
  obtain ⟨_, _, _, _, _, _, _, _, rfl⟩ := h
  exact ⟨rfl, rfl, rfl, rfl⟩

theorem excluded_of_banned (h : d.banned numeral now reason adminId = some e) : Excluded e := by
  simp only [UserViolation.banned, Option.bind_eq_bind, Option.bind_eq_some_iff,
    Option.pure_def, Option.some.injEq] at h
  obtain ⟨_, _, _, _, rfl⟩ := h
  exact ⟨rfl, rfl, rfl, rfl, rfl⟩

theorem frees_of_lifted (h : d.lifted numeral now adminId reason = some e) :
    Frees (e.scored now) := by
  simp only [lifted, Option.bind_eq_bind, Option.bind_eq_some_iff,
    Option.pure_def, Option.some.injEq] at h
  obtain ⟨_, _, _, _, rfl⟩ := h
  refine ⟨?_, rfl, rfl, rfl⟩
  dsimp only [UserViolation.barred, scored]
  split <;> rfl

theorem keeps_of_cautioned {severity : Value}
    (h : d.cautioned numeral now reason severity adminId = some e) : Keeps d (e.scored now) := by
  simp only [cautioned, Option.bind_eq_bind, Option.bind_eq_some_iff,
    Option.pure_def, Option.some.injEq] at h
  obtain ⟨_, _, _, _, _, _, rfl⟩ := h
  refine ⟨⟨rfl, rfl, rfl, rfl⟩, ?_⟩
  by_cases hgo : d.currentStatus = .goodStanding
  · right
    simp [UserViolation.barred, scored, hgo]
  · left
    exact if_neg hgo

theorem keeps_of_frozen {days : Value} (h : d.frozen now days = some e) : Keeps d e := by
  simp only [frozen, Option.bind_eq_bind, Option.bind_eq_some_iff,
    Option.pure_def, Option.some.injEq] at h
  obtain ⟨_, _, rfl⟩ := h
  exact ⟨⟨rfl, rfl, rfl, rfl⟩, .inl rfl⟩

theorem keeps_of_expire : Keeps d ((d.expire now).1.scored now) := by
  refine ⟨⟨rfl, rfl, rfl, rfl⟩, ?_⟩
  dsimp only [expire, UserViolation.barred, scored]
  split
  · rename_i hwa
    right
    simp [hwa.2.2]
  · exact .inl rfl

variable {duration : Value}

theorem struck_some (h : d.struck numeral now reason duration = some e) :
    e.strikes.current = d.strikes.current + 1 ∧ e.currentStatus = d.currentStatus
      ∧ e.restrictions = d.restrictions := by
  simp only [struck, Option.bind_eq_bind, Option.bind_eq_some_iff,
    Option.pure_def, Option.some.injEq] at h
  obtain ⟨_, _, _, _, rfl⟩ := h
  exact ⟨rfl, rfl, rfl⟩

theorem effect_addStrike {f : UserViolation} (hstr : d.struck numeral now reason duration = some f)
    (h : f.escalated numeral now adminId = some e) :
    Effect d (e.scored now) (.addStrike reason adminId duration) := by
  obtain ⟨hcu, hst, hres⟩ := struck_some hstr
  unfold escalated at h
  rw [hcu] at h
  by_cases hz : d.strikes.current = 0
  · rw [if_pos (by rw [hz]; norm_num)] at h
    cases h
    exact .inl ⟨hz, samePermissions_of_eq hres, rfl⟩
  rw [if_neg fun hone => hz (by linarith)] at h
  by_cases hone : d.strikes.current = 1
  · rw [if_pos (by rw [hone]; norm_num)] at h
    exact .inr (.inl ⟨hone, suspends_of_suspended h⟩)
  rw [if_neg fun htwo => hone (by linarith)] at h
  by_cases htwo : 2 ≤ d.strikes.current
  · rw [if_pos (by linarith)] at h
    rw [scored_banned h]
    exact .inr (.inr (.inl ⟨htwo, excluded_of_banned h⟩))
  · rw [if_neg fun hthr => htwo (by linarith)] at h
    cases h
    exact .inr (.inr (.inr ⟨⟨hz, hone, htwo⟩, samePermissions_of_eq hres, .inl hst⟩))

theorem effect_document {m : Method} (h : m.document numeral now d = some e) : Effect d e m := by
  cases m with
  | addStrike =>
    simp only [Method.document, Option.map_eq_some_iff, Option.bind_eq_some_iff] at h
    obtain ⟨f, ⟨g, hst, hesc⟩, rfl⟩ := h
    exact effect_addStrike hst hesc
  | suspend =>
    obtain ⟨f, hf, rfl⟩ := Option.map_eq_some_iff.mp h
    exact suspends_of_suspended hf
  | ban => exact excluded_of_banned h
  | liftSuspension =>
    rw [Method.document] at h
    split at h
    · rename_i hgua
      obtain ⟨f, hf, rfl⟩ := Option.map_eq_some_iff.mp h
      exact ⟨hgua.1, frees_of_lifted hf⟩
    · cases h
  | addWarning =>
    obtain ⟨f, hf, rfl⟩ := Option.map_eq_some_iff.mp h
    exact keeps_of_cautioned hf
  | freezePayouts => exact keeps_of_frozen h
  | checkExpiredStrikes =>
    rw [Method.document] at h
    split at h
    · cases h
      exact keeps_of_expire
    · cases h

def Method.bans (d : UserViolation) : Method → Bool
  | .addStrike _ _ _ => 2 ≤ d.strikes.current
  | .suspend _ _ _ => false
  | .ban _ _ => true
  | .liftSuspension _ _ => false
  | .addWarning _ _ _ => false
  | .freezePayouts _ _ => false
  | .checkExpiredStrikes => false

variable {r : Record} {c : Call} {s : Session}

theorem save_isOk : (save s).isOk = decide (s.Takes s.doc) := by
  by_cases h : s.Takes s.doc
  · rw [save_of_takes h, decide_eq_true h]
    rfl
  · rw [save_of_not_takes h, decide_eq_false h]
    rfl

theorem ban_isOk : (ban numeral now reason adminId s).isOk
      = (s.doc.banned numeral now reason adminId).any fun e => s.Takes e := by
  unfold ban Session.assign
  dsimp only
  cases s.doc.banned numeral now reason adminId with
  | none => rfl
  | some => exact save_isOk

theorem bans_eq : c.bans numeral r = (c.saves numeral r && c.method.bans r.doc) := by
  obtain ⟨now, m, answers⟩ := c
  cases m with
  | ban =>
    simp only [Call.bans, Call.saves, Method.document, Method.bans, Bool.and_true]
    exact ban_isOk
  | addStrike reason adminId duration =>
    simp only [Call.bans, Call.saves, Method.document, Method.bans, Session.assign, Call.start]
    cases hst : r.doc.struck numeral now reason duration with
    | none => rfl
    | some d =>
      obtain ⟨hcu, -, -⟩ := struck_some hst
      have hthr : 3 ≤ d.strikes.current ↔ 2 ≤ r.doc.strikes.current := by
        rw [hcu]
        constructor <;> intro h <;> linarith
      by_cases htwo : 2 ≤ r.doc.strikes.current
      · dsimp only
        rw [Option.bind_some, escalated_of_three numeral now (hthr.mpr htwo),
          map_scored_banned, decide_eq_true (hthr.mpr htwo), decide_eq_true htwo,
          Bool.true_and, Bool.and_true]
        exact ban_isOk
      · simp [hthr, htwo]
  | suspend hours reason adminId | liftSuspension adminId reason
  | addWarning message severity adminId | freezePayouts days adminId | checkExpiredStrikes =>
    simp [Call.bans, Method.bans]

/-! ## One call -/

theorem coherent_of_barred {b : Bool} (hbar : e.barred = b)
    (hup : e.restrictions.canUploadContent = !b) (hmsg : e.restrictions.canMessage = !b)
    (hco : e.restrictions.canComment = !b) : Coherent e := by
  subst hbar
  exact ⟨hup, hmsg, hco⟩

theorem Excluded.barred (h : Excluded e) : e.barred := by
  simp [UserViolation.barred, h.status]

theorem Excluded.coherent (h : Excluded e) : Coherent e :=
  coherent_of_barred h.barred h.upload h.message h.comment

theorem Suspends.barred (h : Suspends e) : e.barred := by
  simp [UserViolation.barred, h.status]

theorem Suspends.coherent (h : Suspends e) : Coherent e :=
  coherent_of_barred h.barred h.upload h.message h.comment

theorem Suspends.not_excluded (h : Suspends e) : ¬ Excluded e := by
  intro hex
  have hst := hex.status
  rw [h.status] at hst
  cases hst

theorem Frees.coherent (h : Frees e) : Coherent e :=
  coherent_of_barred h.status h.upload h.message h.comment

theorem SamePermissions.coherent_iff (h : SamePermissions d e) (hd : Coherent d) :
    Coherent e ↔ e.barred = d.barred := by
  constructor
  · intro he
    have hup : (!e.barred) = !d.barred := by rw [← he.upload, h.upload, hd.upload]
    exact Bool.not_inj hup
  · intro hbar
    exact ⟨by rw [h.upload, hd.upload, hbar], by rw [h.message, hd.message, hbar],
      by rw [h.comment, hd.comment, hbar]⟩

theorem Keeps.barred (h : Keeps d e) : e.barred = d.barred := by
  rcases h.status with hs | ⟨hd, he⟩
  · rw [UserViolation.barred, UserViolation.barred, hs]
  · rw [hd, he]

theorem Keeps.excluded (h : Keeps d e) (hd : Excluded d) : Excluded e := by
  have hst : e.currentStatus = d.currentStatus := by
    rcases h.status with hs | ⟨hfr, -⟩
    · exact hs
    · rw [hd.barred] at hfr
      cases hfr
  exact ⟨hst.trans hd.status, h.upload.trans hd.upload, h.message.trans hd.message,
    h.comment.trans hd.comment, h.withdraw.trans hd.withdraw⟩

theorem Warns.barred (h : Warns d e) : e.barred = false := by simp [UserViolation.barred, h.status]

/-- No first strike for a user who is suspended or banned, and after a ban no
suspension and no second strike. -/
def Method.Spares (d : UserViolation) (banned : Bool) : Method → Prop
  | .addStrike _ _ _ =>
    (d.strikes.current = 0 → d.barred = false) ∧ (d.strikes.current = 1 → banned = false)
  | .suspend _ _ _ => banned = false
  | _ => True

def Harmless (numeral : Number → String) (w : Watched) (c : Call) : Prop :=
  c.saves numeral w.record = true → c.method.Spares w.record.doc w.banned

variable {banned : Bool} {m : Method}

theorem standing_iff_of_suspends (h : Suspends e) :
    Coherent e ∧ (banned → Excluded e) ↔ banned = false := by
  constructor
  · rintro ⟨-, hex⟩
    exact Bool.eq_false_iff.mpr fun hban => h.not_excluded (hex hban)
  · intro hban
    refine ⟨h.coherent, fun htr => ?_⟩
    rw [hban] at htr
    cases htr

theorem standing_of_keeps (hd : Coherent d) (hlas : banned → Excluded d)
    (h : Keeps d e) : Coherent e ∧ (banned → Excluded e) :=
  ⟨(h.coherent_iff hd).mpr h.barred, fun hban => h.excluded (hlas hban)⟩

theorem standing_iff_of_warns (hd : Coherent d) (hlas : banned → Excluded d)
    (h : Warns d e) : Coherent e ∧ (banned → Excluded e) ↔ d.barred = false := by
  rw [h.coherent_iff hd, h.barred]
  constructor
  · rintro ⟨hbar, -⟩
    exact hbar.symm
  · intro hbar
    refine ⟨hbar.symm, fun hban => ?_⟩
    rw [(hlas hban).barred] at hbar
    cases hbar

theorem standing_iff_of_strike (hd : Coherent d) (hlas : banned → Excluded d)
    (h : Effect d e (.addStrike reason adminId duration)) :
    Coherent e ∧ ((banned || decide (2 ≤ d.strikes.current)) = true → Excluded e)
      ↔ Method.Spares d banned (.addStrike reason adminId duration) := by
  rw [Method.Spares]
  rcases h with ⟨hz, h⟩ | ⟨hone, h⟩ | ⟨htwo, h⟩ | ⟨⟨hz, hone, htwo⟩, h⟩
  · have htwo : ¬ 2 ≤ d.strikes.current := by linarith
    have hone : d.strikes.current ≠ 1 := by linarith
    rw [decide_eq_false htwo, Bool.or_false, standing_iff_of_warns hd hlas h]
    exact ⟨fun hbar => ⟨fun _ => hbar, fun heq => absurd heq hone⟩, fun hsp => hsp.1 hz⟩
  · have htwo : ¬ 2 ≤ d.strikes.current := by linarith
    have hz : d.strikes.current ≠ 0 := by linarith
    rw [decide_eq_false htwo, Bool.or_false, standing_iff_of_suspends h]
    exact ⟨fun hban => ⟨fun heq => absurd heq hz, fun _ => hban⟩, fun hsp => hsp.2 hone⟩
  · have hz : d.strikes.current ≠ 0 := by linarith
    have hone : d.strikes.current ≠ 1 := by linarith
    exact ⟨fun _ => ⟨fun heq => absurd heq hz, fun heq => absurd heq hone⟩,
      fun _ => ⟨h.coherent, fun _ => h⟩⟩
  · rw [decide_eq_false htwo, Bool.or_false]
    exact ⟨fun _ => ⟨fun heq => absurd heq hz, fun heq => absurd heq hone⟩,
      fun _ => standing_of_keeps hd hlas h⟩

theorem barred_of_strike (h : Effect d e (.addStrike reason adminId duration))
    (hd : d.barred) (hf : d.strikes.current ≠ 0) : e.barred := by
  rcases h with ⟨hz, -⟩ | ⟨-, h⟩ | ⟨-, h⟩ | ⟨-, h⟩
  · exact absurd hz hf
  · exact h.barred
  · exact h.barred
  · exact h.barred.trans hd

theorem standing_iff_of_effect (hd : Coherent d) (hlas : banned → Excluded d)
    (h : Effect d e m) :
    Coherent e ∧ ((banned || m.bans d) = true → Excluded e) ↔ m.Spares d banned := by
  cases m with
  | addStrike => exact standing_iff_of_strike hd hlas h
  | suspend =>
    rw [Method.bans, Bool.or_false]
    exact standing_iff_of_suspends h
  | ban => exact ⟨fun _ => trivial, fun _ => ⟨h.coherent, fun _ => h⟩⟩
  | liftSuspension =>
    rw [Method.bans, Bool.or_false]
    obtain ⟨hsu, hfre⟩ := h
    refine ⟨fun _ => trivial, fun _ => ⟨hfre.coherent, fun hban => ?_⟩⟩
    have hst := (hlas hban).status
    rw [hsu] at hst
    cases hst
  | addWarning message severity adminId | freezePayouts days adminId | checkExpiredStrikes =>
    rw [Method.bans, Bool.or_false]
    exact ⟨fun _ => trivial, fun _ => standing_of_keeps hd hlas h⟩

theorem standing_watch_iff (w : Watched) (c : Call) (h : Standing w) :
    Standing (watch numeral w c) ↔ Harmless numeral w c := by
  cases hs : c.saves numeral w.record with
  | false =>
    have hwat : watch numeral w c = w := by
      rw [watch, step_of_not_saves hs, bans_eq, hs, Bool.false_and, Bool.or_false]
    rw [hwat]
    refine ⟨fun _ htr => ?_, fun _ => h⟩
    rw [hs] at htr
    cases htr
  | true =>
    have hef := effect_document (step_of_saves hs)
    have hban : (watch numeral w c).banned = (w.banned || c.method.bans w.record.doc) := by
      rw [watch, bans_eq, hs, Bool.true_and]
    have hst := standing_iff_of_effect h.coherent h.lasting hef
    rw [← hban] at hst
    constructor
    · intro hsta _
      exact hst.mp ⟨hsta.coherent, hsta.lasting⟩
    · intro hha
      obtain ⟨hco, hlas⟩ := hst.mpr (hha hs)
      exact ⟨hco, hlas⟩

theorem strikeKeeps_of_harmless (w : Watched) (c : Call)
    (h : Harmless numeral w c) : StrikeKeeps numeral w c := by
  obtain ⟨now, m, answers⟩ := c
  cases m with
  | addStrike reason adminId duration =>
    intro hsu
    have hbar : w.record.doc.barred := by simp [UserViolation.barred, hsu]
    cases hs : Call.saves numeral w.record ⟨now, .addStrike reason adminId duration, answers⟩ with
    | false => rw [step_of_not_saves hs, hbar]
    | true =>
      refine barred_of_strike (effect_document (step_of_saves hs)) hbar ?_
      intro hz
      have hfr := (h hs).1 hz
      rw [hbar] at hfr
      cases hfr
  | suspend | ban | liftSuspension | addWarning | freezePayouts | checkExpiredStrikes => trivial

/-! ## Every sequence of calls -/

/-- The record keeps its standing exactly when it starts coherent and no saved call is a first
strike while suspended or banned, or a suspension or second strike after a ban. -/
theorem keeps_standing_iff (numeral : Number → String) (r : Record) (calls : List Call) :
    Runs.Always (watch numeral) Standing ⟨r, false⟩ calls
        ∧ Runs.Every (watch numeral) (StrikeKeeps numeral) ⟨r, false⟩ calls
      ↔ Coherent r.doc ∧ Runs.Every (watch numeral) (Harmless numeral) ⟨r, false⟩ calls := by
  constructor
  · rintro ⟨halw, -⟩
    have hsta : Standing ⟨r, false⟩ := halw.head
    exact ⟨hsta.coherent, (Runs.always_iff_every standing_watch_iff hsta).mp halw⟩
  · rintro ⟨hcoh, he⟩
    have hsta : Standing ⟨r, false⟩ := ⟨hcoh, fun h => by cases h⟩
    exact ⟨(Runs.always_iff_every standing_watch_iff hsta).mpr he,
      Runs.every_mono strikeKeeps_of_harmless he⟩

/-- What `resolveReport` calls for `user_suspended_7d` with `strikeIssued`. -/
def suspensionWithStrike : List Call :=
  [⟨0, .suspend (.num (.fin (7 * 24))) (.str "Harassment") (.id 0), []⟩,
   ⟨0, .addStrike (.str "Harassment") (.id 0) .undefined, []⟩]

/-- After the first strike the user is only warned, and may still not upload,
message or comment. No argument is a number to be written as a text. -/
theorem standing_fails_on_first_strike :
    let d := (Runs.final (step Number.toFixed2) newRecord suspensionWithStrike).doc
    (d.currentStatus, d.restrictions.canUploadContent, d.restrictions.canMessage,
        d.restrictions.canComment) = (.warned, false, false, false)
      ∧ ¬ Runs.Always (watch Number.toFixed2) Standing ⟨newRecord, false⟩ suspensionWithStrike := by
  refine ⟨by decide +kernel, fun h => ?_⟩
  have hcoh := h.last.coherent.upload
  revert hcoh
  decide +kernel

end SexySelfies.Violations
