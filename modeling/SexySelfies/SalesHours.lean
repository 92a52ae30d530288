import SexySelfies.SalesLimits

/-!
# Requests past the hourly limits and the cooldowns

The quotas count the requests of a clock hour under a key that lives for an hour after the last of
them, and `preventSpam` marks a creator, member and action for the time of the cooldown. A request
that gets past finds its key worth less than the bound: 20, 5, or for a cooldown 1.
-/

namespace SexySelfies.SalesLimits

open Js Platform Runs MemoryStore

variable (offset : ℤ)

def localTime (t : Nat) : Nat := t + (offset % 86400000).toNat

def fixedOffset : Calendar where
  date t := localTime offset t / 86400000
  hours t := localTime offset t / 3600000 % 24
  midnight t := (localTime offset t / 86400000 + 1) * 86400000 - (offset % 86400000).toNat
  nextHour t := (localTime offset t / 3600000 + 1) * 3600000 - (offset % 86400000).toNat
  lt_midnight t := by
    rw [localTime]
    omega
  date_eq_iff t u h := by
    rw [localTime, localTime]
    omega

def clockHour (t : Nat) : Nat := localTime offset t / 3600000

theorem clockHour_eq_iff {offset : ℤ} {t u : Nat} : clockHour offset t = clockHour offset u ↔
      (fixedOffset offset).date t = (fixedOffset offset).date u ∧
        (fixedOffset offset).hours t = (fixedOffset offset).hours u := by
  simp only [clockHour, fixedOffset]
  omega

theorem le_of_clockHour_eq {offset : ℤ} {t u : Nat}
    (h : clockHour offset t = clockHour offset u) : u ≤ t + 3600000 := by
  rw [clockHour, clockHour, localTime, localTime] at h
  omega

def Server.passesInHour (s : Server) (m : Middleware) (creatorId hour : Nat) : Nat :=
  s.passed.countP fun c =>
    c.middleware = m && c.request.creatorId = creatorId && clockHour offset c.request.now = hour

/-- If both are calls of `preventSpam` for the same creator, member and action,
the cooldown of the action is over in between. -/
def Spaced (later earlier : Call) : Prop :=
  later.middleware = .preventSpam → earlier.middleware = .preventSpam →
  later.request.creatorId = earlier.request.creatorId →
  later.request.memberId = earlier.request.memberId →
  later.request.action = earlier.request.action →
    ∀ c ∈ cooldowns later.request.action, earlier.request.now + c * 1000 < later.request.now

section

variable {cal : Calendar} {offset : ℤ} {level : Nat → Option VerificationLevel} {s : Server}
  {c : Call} {r : Request}

/-- No creator has more than `bound` passes in an hour. -/
def HourlyWithin (offset : ℤ) (m : Middleware) (bound : Nat) (s : Server) : Prop :=
  ∀ creatorId hour, s.passesInHour offset m creatorId hour ≤ bound

theorem hour_of_mem_keys {creatorId date hours : Nat} {name : String} {d : Call}
    (h : Key.hourly creatorId name date hours ∈ d.keys cal level) :
    cal.date d.request.now = date ∧ cal.hours d.request.now = hours := by
  rcases mem_keys_cases h with ⟨name, heq⟩ | ⟨name, heq⟩ | heq
  · cases heq
  · cases heq
    exact ⟨rfl, rfl⟩
  · cases heq

/-- No key of the hour lapses before the hour is over. -/
theorem valueAt_hourKey (h : Recorded (fixedOffset offset) level s) (hle : s.clock ≤ r.now)
    (name : String) : s.store.valueAt (r.hourKey (fixedOffset offset) name) r.now
      = (s.times (fixedOffset offset) level (r.hourKey (fixedOffset offset) name)).length := by
  refine h.valueAt hle fun d hd hkey => ?_
  have hhour := le_of_clockHour_eq (clockHour_eq_iff.mpr (hour_of_mem_keys hkey))
  rw [Request.hourKey, Key.seconds]
  omega

variable {m : Middleware} {q : Quota}

theorem passesInHour_le_length (hkeys : ∀ r, Call.keys (fixedOffset offset) level ⟨m, r⟩
      = [r.hourKey (fixedOffset offset) q.name, r.dayKey (fixedOffset offset) q.name]) :
    s.passesInHour offset m r.creatorId (clockHour offset r.now)
      ≤ (s.times (fixedOffset offset) level (r.hourKey (fixedOffset offset) q.name)).length := by
  rw [length_times]
  refine List.countP_mono_left fun d _ hd => ?_
  obtain ⟨m', r'⟩ := d
  simp only [Bool.and_eq_true, decide_eq_true_eq] at hd
  obtain ⟨⟨rfl, hcr⟩, hho⟩ := hd
  obtain ⟨hdt, hhou⟩ := clockHour_eq_iff.mp hho
  have hs : r'.hourKey (fixedOffset offset) q.name = r.hourKey (fixedOffset offset) q.name := by
    rw [Request.hourKey, Request.hourKey, hcr, hdt, hhou]
  rw [hkeys, ← hs]
  exact decide_eq_true List.mem_cons_self

theorem hourlyWithin_step {bound : Nat} (hbound : q.hourlyLimit = bound)
    (hrun : ∀ r s, Call.run (fixedOffset offset) level ⟨m, r⟩ s
      = q.check (fixedOffset offset) level r s)
    (hkeys : ∀ r, Call.keys (fixedOffset offset) level ⟨m, r⟩
      = [r.hourKey (fixedOffset offset) q.name, r.dayKey (fixedOffset offset) q.name])
    (hrec : Recorded (fixedOffset offset) level s) (hle : s.clock ≤ c.request.now)
    (h : HourlyWithin offset m bound s) :
    HourlyWithin offset m bound (step (fixedOffset offset) level s c) := by
  intro creatorId hour
  cases hn : (c.run (fixedOffset offset) level s.store).2.isNext with
  | false =>
    simp only [Server.passesInHour, step, hn, Bool.false_eq_true, if_false]
    exact h creatorId hour
  | true =>
    simp only [Server.passesInHour, step, hn, if_true, List.countP_cons]
    split
    · rename_i hof
      obtain ⟨m', r⟩ := c
      simp only [Bool.and_eq_true, decide_eq_true_eq] at hof
      obtain ⟨⟨rfl, rfl⟩, rfl⟩ := hof
      rw [hrun, q.isNext_iff, hbound, valueAt_hourKey hrec hle] at hn
      have hroom : (s.times (fixedOffset offset) level
          (r.hourKey (fixedOffset offset) q.name)).length < bound := by exact_mod_cast hn.1
      exact (passesInHour_le_length hkeys).trans_lt hroom
    · exact h creatorId hour

/-- A request that gets past finds no earlier one that its key remembers, and
the latest of them is the last to be forgotten. -/
theorem spaced_step (hrec : Recorded cal level s) (hle : s.clock ≤ c.request.now)
    (h : s.passed.Pairwise Spaced) :
    (step cal level s c).passed.Pairwise Spaced := by
  simp only [step]
  split
  · rename_i hn
    refine List.pairwise_cons.mpr ⟨fun d hd => ?_, h⟩
    obtain ⟨m, r⟩ := c
    obtain ⟨m', r'⟩ := d
    rintro (rfl : m = _) (rfl : m' = _) hcr hmb (hac : r.action = _) p
      (hper : cooldowns r.action = some p)
    have hs : r'.cooldownKey = r.cooldownKey := by
      rw [Request.cooldownKey, Request.cooldownKey, hcr, hmb, hac]
    have hsm : (cooldowns r.action).isSome := by rw [hper, Option.isSome_some]
    have hkey : r.cooldownKey ∈ Call.keys cal level ⟨.preventSpam, r'⟩ := by
      rw [Call.keys, ← hac, if_pos hsm, hs]
      exact List.mem_cons_self
    have hlife : ∀ u, r.cooldownKey.seconds cal u = p := by
      intro u
      rw [Request.cooldownKey, Key.seconds, hper, Option.getD_some]
    have hzero := valueAt_cooldownKey hn hsm
    rw [hrec.worth _ _ hle] at hzero
    exact lt_of_worth_eq_zero hlife (hrec.sorted_times _) hzero _ (mem_times.mpr ⟨_, hd, hkey, rfl⟩)
  · exact h

end

/-- **Hours and cooldowns.** For every offset from UTC, for creators of every
level and for every finite sequence of requests at non-decreasing times. -/
theorem hourly_limits_and_cooldowns_kept (offset : ℤ) (level : Nat → Option VerificationLevel)
    (calls : List Call) (hsorted : calls.Pairwise fun c d => c.request.now ≤ d.request.now) :
    Always (step (fixedOffset offset) level)
      (fun s => HourlyWithin offset .messageQuota 20 s ∧
        HourlyWithin offset .specialOfferLimits 5 s ∧ s.passed.Pairwise Spaced) start calls := by
  have hclo : Every (step (fixedOffset offset) level) (fun s c => s.clock ≤ c.request.now)
      start calls := clock_le_of_pairwise hsorted fun _ _ => Nat.zero_le _
  refine always_mono (fun s h => h.2) (always_of_every
    (I := fun s => Recorded (fixedOffset offset) level s ∧ HourlyWithin offset .messageQuota 20 s ∧
      HourlyWithin offset .specialOfferLimits 5 s ∧ s.passed.Pairwise Spaced) ?_ ?_ hclo)
  · rintro s c ⟨hrec, hmes, hoff, hspa⟩ hle
    exact ⟨recorded_step hrec hle,
      hourlyWithin_step (q := messageQuota) rfl (fun _ _ => rfl) (fun _ => rfl) hrec hle hmes,
      hourlyWithin_step (q := offerQuota) rfl (fun _ _ => rfl) (fun _ => rfl) hrec hle hoff,
      spaced_step hrec hle hspa⟩
  · exact ⟨recorded_start, fun _ _ => Nat.zero_le _, fun _ _ => Nat.zero_le _, .nil⟩

def sameMinute (middleware : Middleware) : List Call :=
  List.replicate 3 (callAt middleware 1 32400000) ++ List.replicate 3 (callAt middleware 1 36000000)

theorem pokes_an_hour_apart :
    ((sameMinute .preventSpam).Pairwise fun c d => c.request.now ≤ d.request.now) ∧
    Always (step (fixedOffset 19800000) someLevels)
      (fun s => HourlyWithin 19800000 .messageQuota 20 s ∧
        HourlyWithin 19800000 .specialOfferLimits 5 s ∧ s.passed.Pairwise Spaced) start
      (sameMinute .preventSpam) :=
  ⟨by decide, hourly_limits_and_cooldowns_kept 19800000 someLevels _ (by decide)⟩

end SexySelfies.SalesLimits
