import Mathlib.Algebra.Order.Ring.Rat
import SexySelfies.Runs
import SexySelfies.Windows

/-!
# The rate limit of a user

`userRateLimit` of `auth.middleware.js` keeps a list of times for each user, drops those that have
left the window when the user comes again, and now and then cleans up the lists of all users with
the window of the current request. What is stored for a user depends on who else came and on the
random draws; what it is worth does not (`Exact`).
-/

namespace SexySelfies.RateLimit

open Runs Windows List

/-- `user` is `req.user.id`, `time` what `Date.now()` gives, and `random` what
`Math.random()` gives if it is called. -/
structure Request where
  user : Option String
  time : ℚ
  random : ℚ

inductive Answer where
  | next
  | refused (status : Nat) (error : String)
deriving DecidableEq

abbrev Requests := String → Option (List ℚ)

variable (maxRequests : Nat) (windowMs : ℚ)

def valid (now : ℚ) (times : List ℚ) : List ℚ := times.filter fun time => now - windowMs < time

def cleanUp (now : ℚ) (requests : Requests) : Requests := fun key =>
  (requests key).bind fun times =>
    let validTimes := valid windowMs now times
    if validTimes.length = 0 then none else some validTimes

def userRateLimit (r : Request) (requests : Requests) : Requests × Answer :=
  match r.user with
  | none => (requests, .next)
  | some userId =>
    let requests : Requests :=
      if (requests userId).isNone then Function.update requests userId (some []) else requests
    let userRequests := valid windowMs r.time ((requests userId).getD [])
    if maxRequests ≤ userRequests.length then
      (requests, .refused 429 "Too many requests, please try again later")
    else
      let requests : Requests :=
        Function.update requests userId (some (userRequests ++ [r.time]))
      (if r.random < 1 / 100 then cleanUp windowMs r.time requests else requests, .next)

/-- What the middleware has stored, and the requests of users it has admitted. -/
structure Server where
  requests : Requests
  admitted : List (String × ℚ)

def start : Server := ⟨fun _ => none, []⟩

def Request.entry (r : Request) : List (String × ℚ) :=
  match r.user with
  | none => []
  | some userId => [(userId, r.time)]

def answer (s : Server) (r : Request) : Answer :=
  (userRateLimit maxRequests windowMs r s.requests).2

def step (s : Server) (r : Request) : Server where
  requests := (userRateLimit maxRequests windowMs r s.requests).1
  admitted :=
    if answer maxRequests windowMs s r = .next then s.admitted ++ r.entry else s.admitted

def answers (s : Server) : List Request → List Answer
  | [] => []
  | r :: rs => answer maxRequests windowMs s r :: answers (step maxRequests windowMs s r) rs

def timesOf (userId : String) (admitted : List (String × ℚ)) : List ℚ :=
  (admitted.filter fun e => e.1 = userId).map Prod.snd

theorem timesOf_append (userId : String) (xs ys : List (String × ℚ)) :
    timesOf userId (xs ++ ys) = timesOf userId xs ++ timesOf userId ys := by
  rw [timesOf, filter_append, map_append, timesOf, timesOf]

theorem timesOf_single (userId other : String) (time : ℚ) :
    timesOf userId [(other, time)] = if other = userId then [time] else [] := by
  by_cases h : other = userId
  · simp [timesOf, h]
  · simp [timesOf, h]

/-! ## What is stored -/

section

variable {maxRequests : Nat} {windowMs : ℚ} {s : Server} {r : Request} {now t : ℚ}

def timesIn (requests : Requests) (userId : String) : List ℚ := (requests userId).getD []

theorem valid_append (xs ys : List ℚ) :
    valid windowMs t (xs ++ ys) = valid windowMs t xs ++ valid windowMs t ys := filter_append xs ys

theorem valid_valid (h : now ≤ t) (times : List ℚ) :
    valid windowMs t (valid windowMs now times) = valid windowMs t times := by
  rw [valid, valid, valid, filter_filter]
  refine filter_congr fun time _ => ?_
  by_cases hti : t - windowMs < time
  · have hnow : now - windowMs < time := (sub_le_sub_right h windowMs).trans_lt hti
    simp [hti, hnow]
  · simp [hti]

theorem timesIn_cleanUp (re : Requests) (userId : String) : timesIn (cleanUp windowMs now re) userId
      = valid windowMs now (timesIn re userId) := by
  cases h : re userId with
  | none => simp [timesIn, cleanUp, h, valid]
  | some times =>
    simp only [timesIn, cleanUp, h, Option.bind_some, Option.getD_some]
    by_cases he : (valid windowMs now times).length = 0
    · rw [if_pos he, length_eq_zero_iff.mp he, Option.getD_none]
    · rw [if_neg he, Option.getD_some]

theorem timesIn_init (re : Requests) (userId other : String) :
    timesIn (if (re userId).isNone then Function.update re userId (some [])
      else re) other = timesIn re other := by
  by_cases hn : (re userId).isNone = true
  · rw [if_pos hn, timesIn, timesIn]
    by_cases ho : other = userId
    · rw [ho, Function.update_self, Option.isNone_iff_eq_none.mp hn]
      rfl
    · rw [Function.update_of_ne ho]
  · rw [if_neg hn]

/-- Seen through the window of the time `t`, what is stored for each user are
the times of the requests admitted. -/
def Exact (windowMs t : ℚ) (s : Server) : Prop :=
  ∀ userId, valid windowMs t (timesIn s.requests userId)
    = valid windowMs t (timesOf userId s.admitted)

theorem valid_timesIn_update (h : now ≤ t) (re : Requests) (userId other : String) :
    valid windowMs t (timesIn (Function.update re userId
        (some (valid windowMs now (timesIn re userId) ++ [now]))) other)
      = valid windowMs t (timesIn re other ++ if userId = other then [now] else []) := by
  by_cases ho : userId = other
  · subst ho
    rw [timesIn, Function.update_self, Option.getD_some, valid_append, valid_valid h, if_pos rfl,
      valid_append]
  · rw [timesIn, Function.update_of_ne (Ne.symm ho), if_neg ho, append_nil, timesIn]

variable {userId : String} (maxRequests windowMs) in
theorem userRateLimit_cases (hu : r.user = some userId) (re : Requests) :
    (maxRequests ≤ (valid windowMs r.time (timesIn re userId)).length
        ∧ (userRateLimit maxRequests windowMs r re).2
          = .refused 429 "Too many requests, please try again later"
        ∧ ∀ other, timesIn (userRateLimit maxRequests windowMs r re).1 other = timesIn re other)
      ∨ ((valid windowMs r.time (timesIn re userId)).length < maxRequests
        ∧ (userRateLimit maxRequests windowMs r re).2 = .next ∧ ∀ other t, r.time ≤ t →
          valid windowMs t (timesIn (userRateLimit maxRequests windowMs r re).1 other)
            = valid windowMs t (timesIn re other ++ if userId = other then [r.time] else [])) := by
  have hin := timesIn_init re userId
  simp only [userRateLimit, hu]
  generalize (if (re userId).isNone then Function.update re userId (some [])
    else re) = started at hin ⊢
  rw [← hin userId]
  by_cases hfu : maxRequests ≤ (valid windowMs r.time (timesIn started userId)).length
  · rw [timesIn] at hfu
    simp only [if_pos hfu]
    exact .inl ⟨hfu, trivial, hin⟩
  · refine .inr ⟨Nat.lt_of_not_le hfu, ?_⟩
    rw [timesIn] at hfu
    simp only [if_neg hfu]
    refine ⟨trivial, fun other t ht => ?_⟩
    have hnew : _ = valid windowMs t _ := valid_timesIn_update ht started userId other
    rw [hin other] at hnew
    by_cases hra : r.random < 1 / 100
    · rwa [if_pos hra, timesIn_cleanUp, valid_valid ht]
    · rwa [if_neg hra]

theorem step_anonymous (hu : r.user = none) : step maxRequests windowMs s r = s := by
  simp [step, Request.entry, userRateLimit, hu]

theorem admitted_of_next (hu : r.user = some userId) (h : answer maxRequests windowMs s r = .next) :
    (step maxRequests windowMs s r).admitted = s.admitted ++ [(userId, r.time)] := by
  simp only [step, if_pos h, Request.entry, hu]

theorem admitted_of_refused {status : Nat} {error : String}
    (h : answer maxRequests windowMs s r = .refused status error) :
    (step maxRequests windowMs s r).admitted = s.admitted := by
  refine if_neg ?_
  rw [h]
  exact Answer.noConfusion

theorem step_exact (h : r.time ≤ t) (hs : Exact windowMs t s) :
    Exact windowMs t (step maxRequests windowMs s r) := by
  intro other
  cases hu : r.user with
  | none =>
    rw [step_anonymous hu]
    exact hs other
  | some =>
    rcases userRateLimit_cases maxRequests windowMs hu s.requests with
      ⟨-, hans, htim⟩ | ⟨-, hans, htim⟩
    · rw [admitted_of_refused hans, ← hs other]
      exact congrArg (valid windowMs t) (htim other)
    · rw [admitted_of_next hu hans, timesOf_append, timesOf_single, valid_append,
        ← hs other, ← valid_append]
      exact htim other t h

theorem answer_eq (hu : r.user = some userId) (hs : Exact windowMs r.time s) :
    answer maxRequests windowMs s r
      = if (valid windowMs r.time (timesOf userId s.admitted)).length < maxRequests then .next
        else .refused 429 "Too many requests, please try again later" := by
  rw [← hs userId]
  rcases userRateLimit_cases maxRequests windowMs hu s.requests with
    ⟨hfu, hans, -⟩ | ⟨hfr, hans, -⟩
  · rwa [if_neg (Nat.not_lt.mpr hfu)]
  · rwa [if_pos hfr]

theorem answer_eq_next_iff (hu : r.user = some userId) (hs : Exact windowMs r.time s) :
    answer maxRequests windowMs s r = .next
      ↔ (valid windowMs r.time (timesOf userId s.admitted)).length < maxRequests := by
  rw [answer_eq hu hs]
  split
  · next h => exact iff_of_true rfl h
  · next h => exact iff_of_false Answer.noConfusion h

theorem answer_anonymous (hu : r.user = none) : answer maxRequests windowMs s r = .next := by
  simp only [answer, userRateLimit, hu]

variable (maxRequests) in
theorem answer_congr {r' : Request} {s' : Server} (hu : r.user = r'.user)
    (hti : r.time = r'.time) (had : s.admitted = s'.admitted)
    (hs : Exact windowMs r.time s) (hs' : Exact windowMs r.time s') :
    answer maxRequests windowMs s r = answer maxRequests windowMs s' r'
      ∧ (step maxRequests windowMs s r).admitted = (step maxRequests windowMs s' r').admitted := by
  have hans : answer maxRequests windowMs s r = answer maxRequests windowMs s' r' := by
    cases hn : r.user with
    | none => rw [answer_anonymous hn, answer_anonymous (hu ▸ hn)]
    | some => rw [answer_eq hn hs, answer_eq (hu ▸ hn) (hti ▸ hs'), had, hti]
  refine ⟨hans, ?_⟩
  simp only [step, hans, had, Request.entry, hu, hti]

end

/-! ## Whole runs -/

section

variable {maxRequests : Nat} {windowMs : ℚ} {rs rs' : List Request} {t : ℚ}

theorem final_exact (h : ∀ r ∈ rs, r.time ≤ t) :
    Exact windowMs t (final (step maxRequests windowMs) start rs) := by
  have hrun : Always (step maxRequests windowMs) (Exact windowMs t) start rs :=
    always_of_every (fun _ _ hs hr => step_exact hr hs) (fun _ => rfl) (every_of_forall h)
  exact hrun.last

theorem final_admitted_le (h : ∀ r ∈ rs, r.time ≤ t) :
    ∀ e ∈ (final (step maxRequests windowMs) start rs).admitted, e.2 ≤ t := by
  have hrun : Always (step maxRequests windowMs) (fun s => ∀ e ∈ s.admitted, e.2 ≤ t) start rs := by
    refine always_of_every (fun s r hs hr e he => ?_) nofun (every_of_forall h)
    cases hu : r.user with
    | none =>
      rw [step_anonymous hu] at he
      exact hs e he
    | some =>
      cases hans : answer maxRequests windowMs s r with
      | refused =>
        rw [admitted_of_refused hans] at he
        exact hs e he
      | next =>
        rw [admitted_of_next hu hans] at he
        rcases mem_append.mp he with he | he
        · exact hs e he
        · rwa [mem_singleton.mp he]
  exact hrun.last

theorem final_sparse (hso : rs.Pairwise fun r r' => r.time ≤ r'.time) (userId : String) :
    Sparse windowMs maxRequests
        (timesOf userId (final (step maxRequests windowMs) start rs).admitted)
      ∧ SparseAfter windowMs maxRequests
        (timesOf userId (final (step maxRequests windowMs) start rs).admitted) := by
  induction rs using List.reverseRecOn with
  | nil => exact ⟨sparse_nil, sparseAfter_nil⟩
  | append_singleton rs r ih =>
    obtain ⟨hbef, -, hl⟩ := pairwise_append.mp hso
    have hle : ∀ r' ∈ rs, r'.time ≤ r.time := fun r' hr' => hl r' hr' r (mem_singleton.mpr rfl)
    have hold := ih hbef
    rw [final_append, final_cons, final_nil]
    generalize hs : final (step maxRequests windowMs) start rs = s at hold ⊢
    have hexa : Exact windowMs r.time s := hs ▸ final_exact hle
    cases hu : r.user with
    | none =>
      rwa [step_anonymous hu]
    | some other =>
      cases hans : answer maxRequests windowMs s r with
      | refused =>
        rwa [admitted_of_refused hans]
      | next =>
        rw [admitted_of_next hu hans, timesOf_append, timesOf_single]
        by_cases ho : other = userId
        · subst ho
          rw [if_pos rfl]
          have hre : recent windowMs r.time (timesOf other s.admitted) < maxRequests := by
            have hfr := (answer_eq_next_iff hu hexa).mp hans
            rw [valid, ← countP_eq_length_filter] at hfr
            simpa only [recent, sub_lt_iff_lt_add] using hfr
          exact ⟨hold.1.concat hre, hold.2.concat hre⟩
        · rwa [if_neg ho, append_nil]

theorem answers_congr {s s' : Server} (hso : rs.Pairwise fun r r' => r.time ≤ r'.time)
    (hs : List.Forall₂ (fun r r' => r.user = r'.user ∧ r.time = r'.time) rs rs')
    (had : s.admitted = s'.admitted)
    (hexa : ∀ r ∈ rs, Exact windowMs r.time s ∧ Exact windowMs r.time s') :
    answers maxRequests windowMs s rs = answers maxRequests windowMs s' rs' := by
  induction hs generalizing s s' with
  | nil => rfl
  | @cons r r' rs rs' hr hre ih =>
    obtain ⟨hu, hti⟩ := hr
    obtain ⟨hf, hso⟩ := pairwise_cons.mp hso
    obtain ⟨hnow, hlat⟩ := forall_mem_cons.mp hexa
    obtain ⟨hans, hn⟩ := answer_congr maxRequests hu hti had hnow.1 hnow.2
    rw [answers, answers, hans]
    refine congrArg _ (ih hso hn fun r'' hr'' => ⟨?_, ?_⟩)
    · exact step_exact (hf r'' hr'') (hlat r'' hr'').1
    · exact step_exact (hti ▸ hf r'' hr'') (hlat r'' hr'').2

end

/-- A request is let on exactly when fewer than the maximum of the user's earlier ones in its
window were; so no window holds more, and no draw for the clean-up shows. -/
theorem rate_limit_exact (maxRequests : Nat) (windowMs : ℚ) (rs : List Request)
    (hsorted : rs.Pairwise fun r r' => r.time ≤ r'.time) :
    (∀ before r after userId, rs = before ++ r :: after → r.user = some userId →
        (answer maxRequests windowMs (final (step maxRequests windowMs) start before) r = .next
          ↔ (timesOf userId (final (step maxRequests windowMs) start before).admitted).countP
              (fun time => r.time - windowMs < time ∧ time ≤ r.time) < maxRequests))
      ∧ (∀ userId, Sparse windowMs maxRequests
            (timesOf userId (final (step maxRequests windowMs) start rs).admitted)
          ∧ SparseAfter windowMs maxRequests
            (timesOf userId (final (step maxRequests windowMs) start rs).admitted))
      ∧ ∀ rs', List.Forall₂ (fun r r' => r.user = r'.user ∧ r.time = r'.time) rs rs' →
          answers maxRequests windowMs start rs = answers maxRequests windowMs start rs' := by
  refine ⟨fun before r after userId hrs hu => ?_, final_sparse hsorted, fun rs' hs => ?_⟩
  · have hle : ∀ r' ∈ before, r'.time ≤ r.time := fun r' hr' =>
      (pairwise_append.mp (hrs ▸ hsorted)).2.2 r' hr' r mem_cons_self
    rw [answer_eq_next_iff hu (final_exact hle), valid, ← countP_eq_length_filter]
    refine iff_of_eq (congrArg (· < maxRequests) (countP_congr fun time htime => ?_))
    obtain ⟨e, he, rfl⟩ := mem_map.mp htime
    have hpast := final_admitted_le hle e (mem_filter.mp he).1
    simp only [hpast, and_true]
  · exact answers_congr hsorted hs rfl fun r _ => ⟨fun _ => rfl, fun _ => rfl⟩

def sampleRequests : List Request :=
  [⟨some "a", 0, 1 / 2⟩, ⟨some "b", 300, 0⟩, ⟨some "a", 700, 0⟩, ⟨some "a", 900, 1 / 2⟩,
    ⟨some "a", 1000, 0⟩]

theorem sampleRequests_sorted : sampleRequests.Pairwise fun r r' => r.time ≤ r'.time := by decide

theorem rate_limit_two_a_second :
    sampleRequests.Pairwise (fun r r' => r.time ≤ r'.time)
      ∧ Sparse 1000 2 (timesOf "a" (final (step 2 1000) start sampleRequests).admitted) :=
  ⟨sampleRequests_sorted,
    ((rate_limit_exact 2 1000 sampleRequests sampleRequests_sorted).2.1 "a").1⟩

end SexySelfies.RateLimit
