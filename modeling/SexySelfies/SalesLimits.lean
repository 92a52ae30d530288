import SexySelfies.SalesCounters

/-!
# Requests past the sales limits

The number of requests of a creator and day that get past each middleware, against the limit that is
set for it. A counter lives until midnight, but its lifetime is a whole number of seconds: it can be
gone in the last second of the day. The four types of the routes are not names of the table of
limits, which has plurals: for them `checkDailyInteractionLimit` lets every request on.
-/

namespace SexySelfies.SalesLimits

open Js Platform Runs MemoryStore

/-- The table has no gifts; for them it is the number in the route. -/
def Interaction.limit (limits : DailyLimits) : Interaction → ℤ
  | .poke => limits.pokes
  | .message => limits.messages
  | .specialOffer => limits.specialOffers
  | .gift => 10

def Call.limit (level : Nat → Option VerificationLevel) (c : Call) : Option ℤ :=
  match c.middleware with
  | .dailyInteractionLimit type => some (type.limit (getDailyLimits (level c.request.creatorId)))
  | .messageQuota => some (messageQuota.limit level c.request)
  | .preventSpam => none
  | .bulkActionLimits => some (bulkLimit (level c.request.creatorId))
  | .specialOfferLimits => some (offerQuota.limit level c.request)

/-! ## Within the limit -/

variable (cal : Calendar) (level : Nat → Option VerificationLevel) (s : Server) (c : Call)

def Call.isOf (m : Middleware) (creatorId date : Nat) (c : Call) : Bool :=
  c.middleware = m && c.request.creatorId = creatorId && cal.date c.request.now = date

def Server.passes (m : Middleware) (creatorId date : Nat) : Nat :=
  s.passed.countP (Call.isOf cal m creatorId date)

def Server.passesLike : Nat :=
  s.passes cal c.middleware c.request.creatorId (cal.date c.request.now)

/-- A request that gets past is, with those of its day that got past before
it, within the limit set for it. -/
def WithinLimit : Prop :=
  ∀ limit ∈ c.limit level, (c.run cal level s.store).2.isNext = true →
    ((step cal level s c).passesLike cal c : ℤ) ≤ limit

def Request.late (r : Request) : Bool := cal.midnight r.now < r.now + 1000

/-- How many of the requests counted under a key are still in it at `now`: a
count at a time `u` lets the key live for `key.seconds cal u` from there. -/
def Server.remembered (key : Key) (now : Nat) : Nat :=
  worth (key.seconds cal) (s.times cal level key) now

/-- A late request that comes when the limit is used up is one too many for
those that the key of the hour, or that of the day, still remembers. -/
def Quota.Holds (q : Quota) (s : Server) (c : Call) : Prop :=
  c.request.late cal = true → q.limit level c.request ≤ s.passesLike cal c →
    q.hourlyLimit ≤ s.remembered cal level (c.request.hourKey cal q.name) c.request.now ∨
      q.limit level c.request
        ≤ s.remembered cal level (c.request.dayKey cal q.name) c.request.now

/-- The counter of the bulk actions need not be exact: the request is late, or
a request of the day was let on uncounted, this one included. -/
def Inexact : Prop :=
  c.request.late cal = true ∨ (c.request.creator level).isSome = false ∨
    (s.times cal level (c.request.dayKey cal "bulk")).length < s.passesLike cal c

/-- What keeps a request within its limit. -/
def Careful : Prop :=
  match c.middleware with
  | .dailyInteractionLimit type =>
    (s.passesLike cal c : ℤ) < type.limit (getDailyLimits (level c.request.creatorId))
  | .messageQuota => messageQuota.Holds cal level s c
  | .preventSpam => True
  | .bulkActionLimits =>
    Inexact cal level s c → bulkLimit (level c.request.creatorId) ≤ s.passesLike cal c →
      ∃ creator ∈ c.request.creator level, creator.allowsBulk = false ∨
        bulkLimit creator.verificationLevel
          ≤ s.remembered cal level (c.request.dayKey cal "bulk") c.request.now ∨
        c.request.tooMany (maxRecipients creator.verificationLevel) = true
  | .specialOfferLimits => offerQuota.Holds cal level s c

instance decidableWithinLimit (s : Server) (c : Call) : Decidable (WithinLimit cal level s c) :=
  inferInstanceAs (Decidable (∀ limit ∈ c.limit level, (c.run cal level s.store).2.isNext = true →
    ((step cal level s c).passesLike cal c : ℤ) ≤ limit))

instance decidableHolds (q : Quota) (s : Server) (c : Call) : Decidable (q.Holds cal level s c) :=
  inferInstanceAs (Decidable (_ → _ → _ ∨ _))

instance decidableInexact (s : Server) (c : Call) : Decidable (Inexact cal level s c) :=
  inferInstanceAs (Decidable (_ ∨ _ ∨ _))

instance decidableCareful (s : Server) : (c : Call) → Decidable (Careful cal level s c)
  | ⟨.dailyInteractionLimit _, _⟩ => inferInstanceAs (Decidable (_ < _))
  | ⟨.messageQuota, r⟩ =>
    inferInstanceAs (Decidable (SalesLimits.messageQuota.Holds cal level s ⟨.messageQuota, r⟩))
  | ⟨.preventSpam, _⟩ => inferInstanceAs (Decidable True)
  | ⟨.bulkActionLimits, _⟩ =>
    inferInstanceAs (Decidable (Inexact cal level s _ → _ →
      ∃ creator ∈ Request.creator level _, _ ∨ _ ∨ _))
  | ⟨.specialOfferLimits, r⟩ =>
    inferInstanceAs (Decidable (offerQuota.Holds cal level s ⟨.specialOfferLimits, r⟩))

/-! ## Counters of the day -/

section

variable {cal : Calendar} {level : Nat → Option VerificationLevel} {r : Request} {s : Server}

theorem date_of_mem_keys {creatorId date : Nat} {name : String} {d : Call}
    (h : Key.daily creatorId name date ∈ d.keys cal level) : cal.date d.request.now = date := by
  rcases mem_keys_cases h with ⟨name, heq⟩ | ⟨name, heq⟩ | heq
  · cases heq
    rfl
  · cases heq
  · cases heq

/-- Before the last second of the day, no key of the day has lapsed. -/
theorem valueAt_dayKey (h : Recorded cal level s) (hle : s.clock ≤ r.now)
    (he : r.late cal = false) (name : String) : s.store.valueAt (r.dayKey cal name) r.now
      = (s.times cal level (r.dayKey cal name)).length := by
  refine h.valueAt hle fun d hd hkey => ?_
  have hlate := of_decide_eq_false he
  have hpast := (h.past d hd).trans hle
  have hmid := cal.midnight_eq_of_le hpast (date_of_mem_keys hkey).symm
  simp only [Request.dayKey, Key.seconds, getSecondsUntilMidnight]
  omega

/-- No other middleware counts under the key that a quota has for the day. -/
theorem length_times_dayKey {m : Middleware} {q : Quota}
    (hq : m = .messageQuota ∧ q = messageQuota ∨ m = .specialOfferLimits ∧ q = offerQuota) :
    (s.times cal level (r.dayKey cal q.name)).length
      = s.passes cal m r.creatorId (cal.date r.now) := by
  rw [length_times, Server.passes]
  refine List.countP_congr fun d _ => ?_
  obtain ⟨m', r'⟩ := d
  have hkeys : r.dayKey cal q.name ∈ Call.keys cal level ⟨m', r'⟩ ↔
      m' = m ∧ r.dayKey cal q.name = r'.dayKey cal q.name := by
    rcases hq with ⟨rfl, rfl⟩ | ⟨rfl, rfl⟩
    all_goals
      cases m' with
      | dailyInteractionLimit type =>
        cases type <;> simp [Call.keys, Request.dayKey, Interaction.name, messageQuota, offerQuota]
      | messageQuota | preventSpam | bulkActionLimits | specialOfferLimits =>
        simp [Call.keys, Request.dayKey, Request.hourKey, Request.cooldownKey,
          SalesLimits.messageQuota, offerQuota]
  rw [decide_eq_true_eq, hkeys]
  simp only [Call.isOf, Request.dayKey, Key.daily.injEq, true_and, Bool.and_eq_true,
    decide_eq_true_eq, and_assoc]
  rw [eq_comm (a := r.creatorId), eq_comm (a := cal.date r.now)]

/-! ## Bulk actions -/

variable {s : MemoryStore Key}

theorem bulkActionLimits_isNext_iff : (bulkActionLimits cal level r s).2.isNext ↔
      ∀ creator ∈ r.creator level, creator.allowsBulk ∧
        (s.valueAt (r.dayKey cal "bulk") r.now : ℤ) < bulkLimit creator.verificationLevel ∧
          r.tooMany (maxRecipients creator.verificationLevel) = false := by
  cases hcr : r.creator level with
  | none => simp [bulkActionLimits, hcr, Answer.isNext]
  | some =>
    simp only [bulkActionLimits, hcr, get_value, Option.mem_some_iff, forall_eq']
    split
    · rename_i hall
      refine iff_of_false Bool.false_ne_true fun h => ?_
      rw [h.1] at hall
      cases hall
    · rename_i hall
      split
      · rename_i hl
        exact iff_of_false Bool.false_ne_true fun h => absurd hl (not_le.mpr h.2.1)
      · rename_i hl
        split
        · rename_i hm
          refine iff_of_false Bool.false_ne_true fun h => ?_
          rw [h.2.2] at hm
          cases hm
        · rename_i hm
          exact iff_of_true rfl ⟨by simpa using hall, not_le.mp hl, Bool.eq_false_of_not_eq_true hm⟩

end

/-! ## Keeping the limits -/

section

variable {cal : Calendar} {level : Nat → Option VerificationLevel} {s : Server} {c : Call}

theorem passesLike_step (h : (c.run cal level s.store).2.isNext) :
    (step cal level s c).passesLike cal c = s.passesLike cal c + 1 := by
  have hof : c.isOf cal c.middleware c.request.creatorId (cal.date c.request.now) := by
    simp [Call.isOf]
  simp only [Server.passesLike, Server.passes, step, h, if_true]
  exact List.countP_cons_of_pos hof

theorem withinLimit_iff {limit : ℤ} (hl : c.limit level = some limit) : WithinLimit cal level s c ↔
      ((c.run cal level s.store).2.isNext → (s.passesLike cal c : ℤ) < limit) := by
  simp only [WithinLimit, hl, Option.mem_some_iff, forall_eq']
  refine forall_congr' fun hn => ?_
  rw [passesLike_step hn]
  omega

theorem Quota.withinLimit_iff (q : Quota) (h : Recorded cal level s) (hle : s.clock ≤ c.request.now)
    (hrun : c.run cal level s.store = q.check cal level c.request s.store)
    (hl : c.limit level = some (q.limit level c.request)) (hexa : c.request.late cal = false →
      s.store.valueAt (c.request.dayKey cal q.name) c.request.now = s.passesLike cal c) :
    WithinLimit cal level s c ↔ q.Holds cal level s c := by
  rw [SalesLimits.withinLimit_iff hl, hrun, q.isNext_iff, Quota.Holds, Server.remembered,
    Server.remembered, ← h.worth _ _ hle, ← h.worth _ _ hle]
  constructor
  · intro hin _ hus
    by_contra ho
    obtain ⟨hho, hday⟩ := not_or.mp ho
    exact absurd hus (not_le.mpr (hin ⟨not_le.mp hho, not_le.mp hday⟩))
  · rintro hhol ⟨hho, hday⟩
    by_contra hus
    cases hla : c.request.late cal with
    | true =>
      rcases hhol hla (not_lt.mp hus) with h | h
      · exact absurd h (not_le.mpr hho)
      · exact absurd h (not_le.mpr hday)
    | false =>
      rw [hexa hla] at hday
      exact hus hday

theorem creator_level {r : Request} {creator : Creator} (h : r.creator level = some creator) :
    creator.verificationLevel = level r.creatorId := by
  rw [Request.creator] at h
  split at h
  · rw [← Option.some.inj h]
  · split at h
    · rw [← Option.some.inj h]
    · cases h
    · cases h

theorem bulk_withinLimit_iff {r : Request} (h : Recorded cal level s) (hle : s.clock ≤ r.now) :
    WithinLimit cal level s ⟨.bulkActionLimits, r⟩ ↔
      Careful cal level s ⟨.bulkActionLimits, r⟩ := by
  have hrun : Call.run cal level ⟨.bulkActionLimits, r⟩ s.store
    = bulkActionLimits cal level r s.store := rfl
  rw [withinLimit_iff rfl, hrun, bulkActionLimits_isNext_iff, Careful]
  simp only [Server.remembered, ← h.worth _ _ hle]
  constructor
  · intro hin _ hus
    by_contra ho
    refine absurd hus (not_le.mpr (hin fun creator hcr => ?_))
    have hnot := fun h => ho ⟨creator, hcr, h⟩
    simpa [not_or] using hnot
  · intro hca hn
    by_contra hus
    by_cases hine : Inexact cal level s ⟨.bulkActionLimits, r⟩
    · obtain ⟨creator, hcr, href⟩ := hca hine (not_lt.mp hus)
      obtain ⟨hal, hfew, hm⟩ := hn creator hcr
      rcases href with h | h | h
      · rw [hal] at h
        cases h
      · exact absurd h (not_le.mpr hfew)
      · rw [hm] at h
        cases h
    · simp only [Inexact, not_or, Bool.not_eq_true, Bool.not_eq_false] at hine
      obtain ⟨he, hcnt, hall⟩ := hine
      obtain ⟨creator, hcr⟩ := Option.isSome_iff_exists.mp hcnt
      have hfew := (hn creator hcr).2.1
      rw [creator_level hcr, valueAt_dayKey h hle he] at hfew
      have hall := not_lt.mp hall
      omega

/-- **One request.** It stays within its limit exactly when it is careful. -/
theorem withinLimit_iff_careful (h : Recorded cal level s) (hle : s.clock ≤ c.request.now) :
    WithinLimit cal level s c ↔ Careful cal level s c := by
  obtain ⟨m, r⟩ := c
  cases m with
  | dailyInteractionLimit =>
    rw [withinLimit_iff rfl]
    exact forall_prop_of_true interaction_isNext
  | messageQuota =>
    refine SalesLimits.messageQuota.withinLimit_iff h hle rfl rfl fun he => ?_
    rw [valueAt_dayKey h hle he]
    exact length_times_dayKey (.inl ⟨rfl, rfl⟩)
  | preventSpam => exact iff_of_true (fun _ hl => by cases hl) trivial
  | bulkActionLimits => exact bulk_withinLimit_iff h hle
  | specialOfferLimits =>
    refine offerQuota.withinLimit_iff h hle rfl rfl fun he => ?_
    rw [valueAt_dayKey h hle he]
    exact length_times_dayKey (.inr ⟨rfl, rfl⟩)

end

/-- **The daily limits.** In every calendar, for creators of every level and
for every finite sequence of requests at non-decreasing times. -/
theorem daily_limits_kept_iff (cal : Calendar) (level : Nat → Option VerificationLevel)
    (calls : List Call) (hsorted : calls.Pairwise fun c d => c.request.now ≤ d.request.now) :
    Every (step cal level) (WithinLimit cal level) start calls ↔
      Every (step cal level) (Careful cal level) start calls := by
  have hclo : Every (step cal level) (fun s c => s.clock ≤ c.request.now) start calls :=
    clock_le_of_pairwise hsorted fun _ _ => Nat.zero_le _
  have hboth :
      Every (step cal level) (fun s c => s.clock ≤ c.request.now ∧ WithinLimit cal level s c)
          start calls ↔
        Every (step cal level) (fun s c => s.clock ≤ c.request.now ∧ Careful cal level s c)
          start calls :=
    every_iff_within (I := Recorded cal level) (fun _ _ h hc => recorded_step h hc.1)
      (fun _ _ h => and_congr_right fun hle => withinLimit_iff_careful h hle) recorded_start
  constructor
  · intro h
    exact every_mono (fun _ _ hc => hc.2) (hboth.mp (hclo.and h))
  · intro h
    exact every_mono (fun _ _ hc => hc.2) (hboth.mpr (hclo.and h))

def someLevels (creatorId : Nat) : Option VerificationLevel :=
  if creatorId = 0 then some .basic else some .premium

def callAt (middleware : Middleware) (creatorId now : Nat) : Call :=
  ⟨middleware, ⟨creatorId, now, true, .missing, "m", "poke", .undefined⟩⟩

theorem bulk_actions_at_noon :
    Every (step utc someLevels) (WithinLimit utc someLevels) start
      (List.replicate 4 (callAt .bulkActionLimits 1 43200000)) :=
  (daily_limits_kept_iff utc someLevels _ (by decide)).mpr (by decide +kernel)

def pokesAtNoon : List Call :=
  List.replicate 26 (callAt (.dailyInteractionLimit .poke) 0 43200000)

def lateBulkAction : List Call :=
  List.replicate 3 (callAt .bulkActionLimits 1 86398500) ++ [callAt .bulkActionLimits 1 86399600]

theorem pokes_and_late_bulk_action :
    (pokesAtNoon.Pairwise fun c d => c.request.now ≤ d.request.now) ∧
    ¬ Every (step utc someLevels) (WithinLimit utc someLevels) start pokesAtNoon ∧
    (lateBulkAction.Pairwise fun c d => c.request.now ≤ d.request.now) ∧
    ¬ Every (step utc someLevels) (WithinLimit utc someLevels) start lateBulkAction := by
  refine ⟨?_, ?_, ?_, ?_⟩
  · decide +kernel
  · decide +kernel
  · decide +kernel
  · decide +kernel

end SexySelfies.SalesLimits
