import SexySelfies.Runs
import SexySelfies.SalesLimitsModel

/-!
# What the sales limits count

A middleware that lets a request on counts it under the keys of its day, its hour or its cooldown,
and each count gives the key a new time of expiry. So what a key is worth follows from the times of
the requests counted under it (`Recorded`). The results on days, hours and cooldowns are read off
there.
-/

namespace SexySelfies.SalesLimits

open Js Platform Runs MemoryStore

def Request.cooldownKey (r : Request) : Key := .cooldown r.creatorId r.memberId r.action

variable (cal : Calendar) (level : Nat → Option VerificationLevel)

/-- For how many seconds a key lives that is counted at `now`. -/
def Key.seconds : Key → Nat → Nat
  | .daily .., now => getSecondsUntilMidnight cal now
  | .hourly .., _ => 3600
  | .cooldown _ _ action, _ => (cooldowns action).getD 0

/-- The keys under which a request is counted when it is let on. -/
def Call.keys (c : Call) : List Key :=
  match c.middleware with
  | .dailyInteractionLimit type =>
    if (c.request.creator level).isSome then [c.request.dayKey cal type.name] else []
  | .messageQuota =>
    [c.request.hourKey cal messageQuota.name, c.request.dayKey cal messageQuota.name]
  | .preventSpam => if (cooldowns c.request.action).isSome then [c.request.cooldownKey] else []
  | .bulkActionLimits =>
    if (c.request.creator level).isSome then [c.request.dayKey cal "bulk"] else []
  | .specialOfferLimits =>
    [c.request.hourKey cal offerQuota.name, c.request.dayKey cal offerQuota.name]

structure Server where
  store : MemoryStore Key
  passed : List Call
  clock : Nat

def start : Server := ⟨MemoryStore.empty, [], 0⟩

def step (s : Server) (c : Call) : Server where
  store := (c.run cal level s.store).1
  passed := if (c.run cal level s.store).2.isNext then c :: s.passed else s.passed
  clock := c.request.now

/-- The times of the requests counted under a key, the latest first. -/
def Server.times (s : Server) (key : Key) : List Nat :=
  (s.passed.filter fun c => key ∈ c.keys cal level).map fun c => c.request.now

/-! ## One middleware -/

/-- From `now` on, the given keys are worth one more for their lifetime, and the
others what they were. -/
def Effect (keys : List Key) (now : Nat) (s s' : MemoryStore Key) : Prop :=
  ∀ key t, now ≤ t → s'.valueAt key t =
    if key ∈ keys then
      if lapsed (now + key.seconds cal now * 1000) t then 0 else s.valueAt key now + 1
    else s.valueAt key t

section

variable {cal : Calendar} {level : Nat → Option VerificationLevel} {r : Request}
  {s s' s'' : MemoryStore Key} {now : Nat} {keys keys' : List Key}

theorem effect_refl : Effect cal [] now s s := fun _ _ _ => rfl

theorem effect_get (key : Key) : Effect cal [] now s (s.get key now).1 :=
  fun key' _ hle => s.valueAt_get key key' hle

theorem Effect.trans (h : Effect cal keys now s s') (h' : Effect cal keys' now s' s'')
    (hne : ∀ key ∈ keys, key ∉ keys') : Effect cal (keys ++ keys') now s s'' := by
  intro key t hle
  rw [h' key t hle, h key now le_rfl, h key t hle]
  by_cases hkey : key ∈ keys
  · simp [hkey, hne key hkey]
  · simp [hkey]

theorem Effect.after_get (key : Key) (h : Effect cal keys now (s.get key now).1 s') :
    Effect cal keys now s s' :=
  (effect_get key).trans h fun _ hno => absurd hno List.not_mem_nil

theorem effect_of_key {key : Key}
    (hown : ∀ t, s'.valueAt key t =
      if lapsed (now + key.seconds cal now * 1000) t then 0 else s.valueAt key now + 1)
    (hothers : ∀ key' ≠ key, ∀ t, s'.valueAt key' t = s.valueAt key' t) :
    Effect cal [key] now s s' := by
  intro key' t _
  by_cases hkey : key' = key
  · subst hkey
    rw [if_pos List.mem_cons_self]
    exact hown t
  · rw [if_neg fun hmem => hkey (List.mem_singleton.mp hmem)]
    exact hothers key' hkey t

theorem effect_count (key : Key) :
    Effect cal [key] now s (s.count key (key.seconds cal now) now) :=
  effect_of_key (fun _ => valueAt_count) fun _ hne t => s.valueAt_count_of_ne hne t

theorem effect_set {key : Key} (hlife : key.seconds cal now ≠ 0) (hzero : s.valueAt key now = 0) :
    Effect cal [key] now s (s.set key 1 (key.seconds cal now) now) := by
  refine effect_of_key (fun t => ?_) fun _ hne _ => valueAt_set_of_ne hne
  rw [hzero]
  exact valueAt_set hlife

theorem Quota.isNext_iff (q : Quota) : (q.check cal level r s).2.isNext ↔
      (s.valueAt (r.hourKey cal q.name) r.now : ℤ) < q.hourlyLimit ∧
        (s.valueAt (r.dayKey cal q.name) r.now : ℤ) < q.limit level r := by
  simp only [Quota.check, get_value, valueAt_get _ _ _ le_rfl]
  split
  · rename_i hho
    exact iff_of_false Bool.false_ne_true fun h => absurd hho (not_le.mpr h.1)
  · rename_i hho
    split
    · rename_i hday
      exact iff_of_false Bool.false_ne_true fun h => absurd hday (not_le.mpr h.2)
    · rename_i hday
      exact iff_of_true rfl ⟨not_le.mp hho, not_le.mp hday⟩

theorem Quota.check_effect (q : Quota) :
    Effect cal (if (q.check cal level r s).2.isNext then
      [r.hourKey cal q.name, r.dayKey cal q.name] else []) r.now s (q.check cal level r s).1 := by
  simp only [Quota.check]
  split
  · exact effect_get _
  · split
    · exact Effect.after_get _ (effect_get _)
    · refine Effect.after_get (r.hourKey cal q.name) (Effect.after_get (r.dayKey cal q.name) ?_)
      refine (effect_count (r.hourKey cal q.name)).trans (effect_count (r.dayKey cal q.name)) ?_
      simp [Request.hourKey, Request.dayKey]

theorem bulkActionLimits_effect :
    Effect cal (if (bulkActionLimits cal level r s).2.isNext then
      Call.keys cal level ⟨.bulkActionLimits, r⟩ else []) r.now s
        (bulkActionLimits cal level r s).1 := by
  cases hcr : r.creator level with
  | none =>
    simp only [bulkActionLimits, Call.keys, hcr]
    exact effect_refl
  | some =>
    simp only [bulkActionLimits, Call.keys, hcr]
    split
    · exact effect_refl
    · split
      · exact effect_get _
      · split
        · exact effect_get _
        · exact Effect.after_get _ (effect_count (r.dayKey cal "bulk"))

variable {type : Interaction}

theorem get_interaction (l : DailyLimits) : l.get type.name = none := by
  cases type with
  | poke | message | specialOffer | gift => rfl

theorem interaction_isNext :
    (checkDailyInteractionLimit cal level type.name r s).2.isNext := by
  cases hcr : r.creator level with
  | none => simp only [checkDailyInteractionLimit, hcr, Answer.isNext]
  | some =>
    simp only [checkDailyInteractionLimit, hcr, get_interaction, Option.any_none]
    rfl

theorem interaction_effect :
    Effect cal (Call.keys cal level ⟨.dailyInteractionLimit type, r⟩) r.now s
      (checkDailyInteractionLimit cal level type.name r s).1 := by
  cases hcr : r.creator level with
  | none =>
    simp only [checkDailyInteractionLimit, Call.keys, hcr]
    exact effect_refl
  | some =>
    simp only [checkDailyInteractionLimit, Call.keys, hcr, get_interaction, Option.any_none]
    exact Effect.after_get _ (effect_count (r.dayKey cal type.name))

theorem cooldowns_ne_zero {action : String} {period : Nat} (h : cooldowns action = some period) :
    period ≠ 0 := by
  obtain ⟨before, after, heq, -⟩ := List.lookup_eq_some_iff.mp h
  have hmem : (action, period) ∈ before ++ (action, period) :: after :=
    List.mem_append_right _ List.mem_cons_self
  simp only [← heq, List.mem_cons, Prod.mk.injEq, List.not_mem_nil, or_false] at hmem
  omega

theorem valueAt_cooldownKey (hn : (preventSpam r s).2.isNext)
    (hper : (cooldowns r.action).isSome) : s.valueAt r.cooldownKey r.now = 0 := by
  obtain ⟨period, hper⟩ := Option.isSome_iff_exists.mp hper
  rw [← get_value, Request.cooldownKey]
  simp only [preventSpam, hper] at hn
  split at hn
  · cases hn
  · rename_i hfr
    rw [Option.not_isSome_iff_eq_none.mp hfr, Option.getD_none]

theorem preventSpam_effect :
    Effect cal (if (preventSpam r s).2.isNext then Call.keys cal level ⟨.preventSpam, r⟩ else [])
      r.now s (preventSpam r s).1 := by
  cases hper : cooldowns r.action with
  | none =>
    simp only [preventSpam, Call.keys, hper]
    exact effect_refl
  | some period =>
    have hlife : r.cooldownKey.seconds cal r.now = period := by
      rw [Request.cooldownKey, Key.seconds, hper, Option.getD_some]
    simp only [preventSpam, Call.keys, hper]
    split
    · exact Effect.after_get _ fun _ _ hle => valueAt_ttl hle
    · rename_i hfr
      have hzero : (s.get r.cooldownKey r.now).1.valueAt r.cooldownKey r.now = 0 := by
        rw [valueAt_get _ _ _ le_rfl, ← get_value, Request.cooldownKey,
          Option.not_isSome_iff_eq_none.mp hfr, Option.getD_none]
      have hset := effect_set (hlife ▸ cooldowns_ne_zero hper) hzero
      rw [hlife] at hset
      exact Effect.after_get _ hset

/-- **One step.** A request that is let on is counted under its keys; nothing
else changes. -/
theorem Call.run_effect (c : Call) :
    Effect cal (if (c.run cal level s).2.isNext then c.keys cal level else []) c.request.now s
      (c.run cal level s).1 := by
  obtain ⟨m, r⟩ := c
  cases m with
  | dailyInteractionLimit type =>
    have hn : (Call.run cal level ⟨.dailyInteractionLimit type, r⟩ s).2.isNext := interaction_isNext
    rw [if_pos hn]
    exact interaction_effect
  | messageQuota => exact SalesLimits.messageQuota.check_effect
  | preventSpam => exact preventSpam_effect
  | bulkActionLimits => exact bulkActionLimits_effect
  | specialOfferLimits => exact offerQuota.check_effect

end

/-! ## Whole runs -/

/-- The requests let on are there with the latest first, and from now on a key
is worth what the requests counted under it make it. -/
structure Recorded (s : Server) : Prop where
  past : ∀ d ∈ s.passed, d.request.now ≤ s.clock
  sorted : s.passed.Pairwise fun d e => e.request.now ≤ d.request.now
  worth : ∀ key t, s.clock ≤ t →
    s.store.valueAt key t = worth (key.seconds cal) (s.times cal level key) t

section

variable {cal : Calendar} {level : Nat → Option VerificationLevel} {s : Server} {c : Call}

theorem recorded_start : Recorded cal level start where
  past _ hd := absurd hd List.not_mem_nil
  sorted := .nil
  worth _ _ _ := valueAt_empty

theorem times_step (key : Key) : (step cal level s c).times cal level key =
    if key ∈ (if (c.run cal level s.store).2.isNext then c.keys cal level else []) then
      c.request.now :: s.times cal level key
    else s.times cal level key := by
  cases hn : (c.run cal level s.store).2.isNext with
  | false => simp [Server.times, step, hn]
  | true =>
    by_cases hkey : key ∈ c.keys cal level
    · simp [Server.times, step, hn, hkey]
    · simp [Server.times, step, hn, hkey]

theorem recorded_step (h : Recorded cal level s) (hle : s.clock ≤ c.request.now) :
    Recorded cal level (step cal level s c) := by
  have hpa : ∀ d ∈ s.passed, d.request.now ≤ c.request.now :=
    fun d hd => (h.past d hd).trans hle
  refine ⟨fun d hd => ?_, ?_, fun key t (hclo : c.request.now ≤ t) => ?_⟩
  · simp only [step] at hd
    split at hd
    · rcases List.mem_cons.mp hd with rfl | hd
      · exact le_rfl
      · exact hpa d hd
    · exact hpa d hd
  · simp only [step]
    split
    · exact List.pairwise_cons.mpr ⟨hpa, h.sorted⟩
    · exact h.sorted
  · refine (c.run_effect key t hclo).trans ?_
    rw [times_step]
    by_cases hkey : key ∈ if (c.run cal level s.store).2.isNext then c.keys cal level else []
    · rw [if_pos hkey, if_pos hkey, MemoryStore.worth, h.worth key c.request.now hle]
    · rw [if_neg hkey, if_neg hkey]
      exact h.worth key t (hle.trans hclo)

theorem clock_le_of_pairwise {calls : List Call}
    (hso : calls.Pairwise fun c d => c.request.now ≤ d.request.now)
    (hs : ∀ c ∈ calls, s.clock ≤ c.request.now) :
    Every (step cal level) (fun s c => s.clock ≤ c.request.now) s calls := by
  induction calls generalizing s with
  | nil => trivial
  | cons c calls ih =>
    obtain ⟨hf, hr⟩ := List.pairwise_cons.mp hso
    exact ⟨hs c List.mem_cons_self, ih hr hf⟩

theorem mem_keys_cases {key : Key} (h : key ∈ c.keys cal level) :
    (∃ name, key = c.request.dayKey cal name) ∨ (∃ name, key = c.request.hourKey cal name)
      ∨ key = c.request.cooldownKey := by
  obtain ⟨m, r⟩ := c
  cases m with
  | dailyInteractionLimit | bulkActionLimits =>
    simp only [Call.keys] at h
    split at h
    · exact .inl ⟨_, List.mem_singleton.mp h⟩
    · cases h
  | preventSpam =>
    simp only [Call.keys] at h
    split at h
    · exact .inr (.inr (List.mem_singleton.mp h))
    · cases h
  | messageQuota | specialOfferLimits =>
    rcases List.mem_pair.mp h with rfl | rfl
    · exact .inr (.inl ⟨_, rfl⟩)
    · exact .inl ⟨_, rfl⟩

theorem mem_times {key : Key} {u : Nat} : u ∈ s.times cal level key ↔
    ∃ d ∈ s.passed, key ∈ d.keys cal level ∧ d.request.now = u := by
  simp [Server.times, and_assoc]

theorem Recorded.sorted_times (h : Recorded cal level s) (key : Key) :
    (s.times cal level key).Pairwise fun u v => v ≤ u :=
  List.pairwise_map.mpr (h.sorted.filter _)

theorem length_times (key : Key) :
    (s.times cal level key).length = s.passed.countP fun c => key ∈ c.keys cal level := by
  rw [Server.times, List.length_map, List.countP_eq_length_filter]

/-- A key is worth the number of requests counted under it that have not
outlived it. -/
theorem Recorded.valueAt (h : Recorded cal level s) {now : Nat} (hle : s.clock ≤ now) {key : Key}
    (hlive : ∀ d ∈ s.passed, key ∈ d.keys cal level →
      now ≤ d.request.now + key.seconds cal d.request.now * 1000) :
    s.store.valueAt key now = (s.times cal level key).length := by
  rw [h.worth key now hle]
  refine worth_eq_length (fun u hu => ?_) le_rfl
  obtain ⟨d, hd, hkey, rfl⟩ := mem_times.mp hu
  exact ⟨(h.past d hd).trans hle, hlive d hd hkey⟩

end

end SexySelfies.SalesLimits
