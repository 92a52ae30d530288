import SexySelfies.Runs
import SexySelfies.ViolationModel

/-!
# Strikes, suspensions and the risk score add up

Along any calls on a new record, `strikes.current` counts the strikes that have not run out,
`strikes.total` counts all, the risk score is in its range and high enough for the status, and a
suspended user has a suspension that is not lifted.
-/

namespace SexySelfies.Violations

open Js Platform UserViolation

def unexpired (history : List Strike) : Nat := history.countP fun s => !s.expired

structure Counted (s : Strikes) : Prop where
  current : s.current = unexpired s.history
  total : s.total = s.history.length

structure Rated (d : UserViolation) : Prop where
  banned : d.currentStatus = .banned → d.riskScore = 100
  suspended : d.currentStatus = .suspended → 75 ≤ d.riskScore

def Held (d : UserViolation) : Prop :=
  d.currentStatus = .suspended → ∃ s ∈ d.suspensions.getLast?, s.lifted = false

/-- The bounds, and the figures of the history. -/
structure Accounted (d : UserViolation) : Prop where
  strikes : Counted d.strikes
  current_nonneg : 0 ≤ d.strikes.current
  current_le : d.strikes.current ≤ 3
  riskScore_nonneg : 0 ≤ d.riskScore
  riskScore_le : d.riskScore ≤ 100
  rated : Rated d
  held : Held d

/-! ## What the methods assign -/

variable {numeral : Number → String} {now : ℤ} {reason : Value} {adminId : Ref}
  {d e : UserViolation}

theorem struck_spec {du : Value} (h : d.struck numeral now reason du = some e) :
    ∃ s : Strike, s.expired = false ∧ e = { d with strikes :=
          ⟨d.strikes.current + 1, d.strikes.total + 1, d.strikes.history ++ [s]⟩ } := by
  simp only [struck, Option.bind_eq_bind, Option.bind_eq_some_iff,
    Option.pure_def, Option.some.injEq] at h
  obtain ⟨ea, -, text, -, rfl⟩ := h
  exact ⟨_, rfl, rfl⟩

theorem suspended_spec {hours : Value} (h : d.suspended numeral now hours reason adminId = some e) :
    e.currentStatus = .suspended ∧ e.strikes = d.strikes
      ∧ ∃ s : Suspension, s.lifted = false ∧ e.suspensions = d.suspensions ++ [s] := by
  simp only [suspended, Option.bind_eq_bind, Option.bind_eq_some_iff,
    Option.pure_def, Option.some.injEq] at h
  obtain ⟨_, _, _, _, _, _, _, _, rfl⟩ := h
  exact ⟨rfl, rfl, _, rfl, rfl⟩

theorem banned_spec (h : d.banned numeral now reason adminId = some e) :
    e.currentStatus = .banned ∧ e.strikes = d.strikes ∧ e.riskScore = 100 := by
  simp only [banned, Option.bind_eq_bind, Option.bind_eq_some_iff,
    Option.pure_def, Option.some.injEq] at h
  obtain ⟨_, _, _, _, rfl⟩ := h
  exact ⟨rfl, rfl, rfl⟩

theorem lifted_spec (h : d.lifted numeral now adminId reason = some e) :
    e.currentStatus ≠ .suspended ∧ e.strikes = d.strikes := by
  simp only [lifted, Option.bind_eq_bind, Option.bind_eq_some_iff,
    Option.pure_def, Option.some.injEq] at h
  obtain ⟨_, _, _, _, rfl⟩ := h
  refine ⟨?_, rfl⟩
  dsimp only
  split <;> decide

theorem cautioned_spec {severity : Value}
    (h : d.cautioned numeral now reason severity adminId = some e) :
    (e.currentStatus = .suspended → d.currentStatus = .suspended) ∧ e.strikes = d.strikes
      ∧ e.suspensions = d.suspensions := by
  simp only [cautioned, Option.bind_eq_bind, Option.bind_eq_some_iff,
    Option.pure_def, Option.some.injEq] at h
  obtain ⟨_, _, _, _, _, _, rfl⟩ := h
  refine ⟨?_, rfl, rfl⟩
  dsimp only
  split
  · intro hwa
    cases hwa
  · exact id

theorem frozen_spec {days : Value} (h : d.frozen now days = some e) :
    e = { d with restrictions := e.restrictions } := by
  simp only [frozen, Option.bind_eq_bind, Option.bind_eq_some_iff,
    Option.pure_def, Option.some.injEq] at h
  obtain ⟨_, _, rfl⟩ := h
  rfl

/-! ## The loop over the history -/

variable {history : List Strike}

theorem unexpired_cons (s : Strike) :
    unexpired (s :: history) = unexpired history + if s.expired then 0 else 1 := by
  rw [unexpired, List.countP_cons, unexpired]
  cases s.expired <;> rfl

theorem unexpired_append {s : Strike} (h : s.expired = false) :
    unexpired (history ++ [s]) = unexpired history + 1 := by simp [unexpired, h]

theorem Counted.struck {s : Strikes} (h : Counted s) {strike : Strike}
    (hst : strike.expired = false) :
    Counted ⟨s.current + 1, s.total + 1, s.history ++ [strike]⟩ := by
  constructor
  · rw [unexpired_append hst, h.current, Nat.cast_succ]
  · rw [List.length_append, List.length_singleton, h.total, Nat.cast_succ]

/-- The loop takes one off the count for each strike that it marks; `passed`
is the number of strikes before this part of the history that stay. -/
theorem counted_expireStrikes (now : ℤ) (history : List Strike) (p : Nat) (r : Bool) :
    (expireStrikes now history (unexpired history + p : Nat) r).2.1
        = (unexpired (expireStrikes now history (unexpired history + p : Nat) r).1 + p : Nat)
      ∧ (expireStrikes now history (unexpired history + p : Nat) r).1.length = history.length := by
  induction history generalizing p r with
  | nil => exact ⟨rfl, rfl⟩
  | cons strike rest ih =>
    rw [expireStrikes, unexpired_cons]
    by_cases hout : (!strike.expired && decide (strike.expiresAt < now)) = true
    · have hune : strike.expired = false := by
        rw [Bool.and_eq_true, Bool.not_eq_true'] at hout
        exact hout.1
      have hpos : (0 : ℚ) < (unexpired rest + 1 + p : Nat) := by
        rw [Nat.cast_pos]
        omega
      have hle : ((unexpired rest + 1 + p : Nat) : ℚ) - 1 = (unexpired rest + p : Nat) := by
        push_cast
        ring
      obtain ⟨hcu, hlen⟩ := ih p true
      rw [hune, if_neg Bool.false_ne_true]
      rw [hune] at hout
      rw [if_pos hout]
      dsimp only
      rw [if_pos hpos, hle, unexpired_cons, hcu, List.length_cons, hlen]
      exact ⟨rfl, rfl⟩
    · rw [if_neg hout]
      dsimp only
      have hsum : unexpired rest + (if strike.expired = true then 0 else 1) + p
          = unexpired rest + (p + if strike.expired = true then 0 else 1) := by omega
      obtain ⟨hcu, hlen⟩ := ih (p + if strike.expired = true then 0 else 1) r
      rw [hsum, unexpired_cons, hcu, List.length_cons, hlen]
      refine ⟨?_, rfl⟩
      congr 1
      omega

theorem counted_expire (h : Counted d.strikes) : Counted (d.expire now).1.strikes := by
  have hlo := counted_expireStrikes now d.strikes.history 0 false
  rw [Nat.add_zero, ← h.current] at hlo
  refine ⟨hlo.1, h.total.trans ?_⟩
  exact congrArg Nat.cast hlo.2.symm

theorem suspended_of_expire (h : (d.expire now).1.currentStatus = .suspended) :
    d.currentStatus = .suspended := by
  dsimp only [expire] at h
  split at h
  · cases h
  · exact h

/-! ## The documents that are saved -/

theorem rated_scored : Rated (d.scored now) := by
  constructor
  · intro hban
    have hst : d.currentStatus = .banned := hban
    simp [scored, score, hst]
  · intro hsu
    have hst : d.currentStatus = .suspended := hsu
    simp only [scored, score, hst]
    exact le_min (le_max_right _ _) (by norm_num)

theorem held_of_suspended {hours : Value}
    (h : d.suspended numeral now hours reason adminId = some e) : Held e := by
  obtain ⟨-, -, s, hli, hsus⟩ := suspended_spec h
  intro _
  refine ⟨s, ?_, hli⟩
  rw [hsus, List.getLast?_concat]
  rfl

structure Kept (d : UserViolation) : Prop where
  strikes : Counted d.strikes
  rated : Rated d
  held : Held d

theorem kept_scored (hstk : Counted d.strikes) (hhe : Held d) : Kept (d.scored now) :=
  ⟨hstk, rated_scored, hhe⟩

theorem kept_banned (h : Counted d.strikes) (hban : d.banned numeral now reason adminId = some e) :
    Kept e := by
  obtain ⟨hst, hstk, hsc⟩ := banned_spec hban
  refine ⟨hstk ▸ h, ⟨fun _ => hsc, ?_⟩, ?_⟩
  · intro hsu
    rw [hst] at hsu
    cases hsu
  · intro hsu
    rw [hst] at hsu
    cases hsu

theorem kept_escalated (h : Counted d.strikes) (hhe : Held d)
    (hesc : d.escalated numeral now adminId = some e) : Kept (e.scored now) := by
  unfold escalated at hesc
  split at hesc
  · cases hesc
    refine kept_scored h fun hsu => ?_
    cases hsu
  split at hesc
  · obtain ⟨-, hstk, -⟩ := suspended_spec hesc
    exact kept_scored (hstk ▸ h) (held_of_suspended hesc)
  split at hesc
  · rw [scored_banned hesc]
    exact kept_banned h hesc
  · cases hesc
    exact kept_scored h hhe

theorem kept_document {m : Method} (h : Kept d) (hdoc : m.document numeral now d = some e) :
    Kept e := by
  cases m with
  | addStrike =>
    simp only [Method.document, Option.map_eq_some_iff, Option.bind_eq_some_iff] at hdoc
    obtain ⟨f, ⟨g, hstr, hesc⟩, rfl⟩ := hdoc
    obtain ⟨s, hs, heq⟩ := struck_spec hstr
    have hcnt : Counted g.strikes := by
      rw [heq]
      exact h.strikes.struck hs
    have hhe : Held g := by
      rw [heq]
      exact h.held
    exact kept_escalated hcnt hhe hesc
  | suspend =>
    obtain ⟨f, hf, rfl⟩ := Option.map_eq_some_iff.mp hdoc
    obtain ⟨-, hstk, -⟩ := suspended_spec hf
    exact kept_scored (hstk ▸ h.strikes) (held_of_suspended hf)
  | ban => exact kept_banned h.strikes hdoc
  | liftSuspension =>
    rw [Method.document] at hdoc
    split at hdoc
    · obtain ⟨f, hf, rfl⟩ := Option.map_eq_some_iff.mp hdoc
      obtain ⟨hst, hstk⟩ := lifted_spec hf
      exact kept_scored (hstk ▸ h.strikes) fun hsu => absurd hsu hst
    · cases hdoc
  | addWarning =>
    obtain ⟨f, hf, rfl⟩ := Option.map_eq_some_iff.mp hdoc
    obtain ⟨hst, hstk, hsus⟩ := cautioned_spec hf
    refine kept_scored (hstk ▸ h.strikes) fun hsu => ?_
    rw [hsus]
    exact h.held (hst hsu)
  | freezePayouts =>
    rw [frozen_spec hdoc]
    exact ⟨h.strikes, ⟨h.rated.banned, h.rated.suspended⟩, h.held⟩
  | checkExpiredStrikes =>
    rw [Method.document] at hdoc
    split at hdoc
    · cases hdoc
      refine kept_scored (counted_expire h.strikes) fun hsu => ?_
      exact h.held (suspended_of_expire hsu)
    · cases hdoc

variable (numeral : Number → String)

theorem kept_step (r : Record) (c : Call) (h : Kept r.doc) :
    Kept (step numeral r c).doc := by
  cases hs : c.saves numeral r with
  | false =>
    rwa [step_of_not_saves hs]
  | true => exact kept_document h (step_of_saves hs)

theorem kept_new : Kept newRecord.doc := by
  refine ⟨⟨rfl, rfl⟩, ⟨?_, ?_⟩, ?_⟩
  · intro hban
    cases hban
  · intro hsu
    cases hsu
  · intro hsu
    cases hsu

theorem accounted_of_kept {r : Record} (h : Kept r.doc) : Accounted r.doc :=
  ⟨h.strikes, r.valid.current_nonneg, r.valid.current_le, r.valid.riskScore_nonneg,
    r.valid.riskScore_le, h.rated, h.held⟩

/-- In every state of every sequence of calls on a new record, the counts, the
risk score and the last suspension are those of the history and the status. -/
theorem accounts_kept (numeral : Number → String) (calls : List Call) :
    Runs.Always (step numeral) (fun r => Accounted r.doc) newRecord calls := by
  have hk : Runs.Always (step numeral) (fun r => Kept r.doc) newRecord calls :=
    Runs.always_of_step (kept_step numeral) kept_new
  exact Runs.always_mono (fun _ => accounted_of_kept) hk

end SexySelfies.Violations
