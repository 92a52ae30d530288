import Mathlib.Data.List.Pairwise
import Mathlib.Data.List.Nodup
import Mathlib.Tactic.Common
import SexySelfies.Collection
import SexySelfies.Runs

/-!
# Requests that wait for the connection

A request issued while the browser is offline is put in `offlineQueue`, and the handler of the next
`online` event replays the queue. Two interceptors of `api.config.js` fill it. The error
interceptor's promise is the result of the call. The request interceptor's promise is the
configuration to send: resolved with the data of the replay, it makes axios send that data as a
request of its own, and rejected, it takes the error through the error interceptor once more.

The answer 401 leads to a refresh of the tokens and a second sending (`TokenRefresh`), which is left
out here, and so are runs with such an answer (`Steady`).
-/

namespace SexySelfies.OfflineQueue

open Collection Runs List

/-! ## Calls -/

inductive Side where
  | request
  | response
deriving DecidableEq

/-- What axios sends: a configuration of a caller, or data it was given for
one. -/
inductive Sent (C D : Type) where
  | config (c : C)
  | data (d : D)

structure Queued (C D A : Type) where
  config : Sent C D
  side : Side
  call : Nat
  await : A

/-- Who waits for a call: a caller, or the handler of an `online` event, with
the entry it replays and the rest of its queue. -/
inductive Await (C D : Type) where
  | caller
  | handler (side : Side) (call : Nat) (await : Await C D) (rest : List (Queued C D (Await C D)))

abbrev Entry (C D : Type) := Queued C D (Await C D)

inductive Code where
  | networkError
  | forbidden
  | notFound
  | rateLimited
  | serverError
  | validationError

inductive Reason (C D : Type) where
  | axios (config : Sent C D) (response : Option (Nat × D))
  | message (code : Code)
  | body (d : D)
  | typeError

inductive Outcome (C D : Type) where
  | fulfilled (d : D)
  | rejected (e : Reason C D)

inductive Phase (C D : Type) where
  | queued
  | sending (config : Sent C D)
  | settled (outcome : Outcome C D)

structure Call (C D : Type) where
  config : Sent C D
  await : Await C D
  phase : Phase C D

structure State (C D : Type) where
  onLine : Bool
  offlineQueue : List (Entry C D)
  calls : List (Call C D)
  held : List Nat
  due : Nat
  sends : List (Nat × Sent C D)
  outcomes : Nat → Option (Outcome C D)

structure Env (C D : Type) where
  queueIfOffline : Sent C D → Bool
  truthy : D → Bool
  config : D → Option (Sent C D)
  response : D → Option (Nat × D)

def Await.root {C D : Type} (call : Nat) : Await C D → Nat
  | .caller => call
  | .handler _ n await _ => await.root n

def Await.isCaller {C D : Type} : Await C D → Bool
  | .caller => true
  | .handler _ _ _ _ => false

variable {C D : Type} (env : Env C D)

def Reason.config : Reason C D → Option (Sent C D)
  | .axios config _ => some config
  | .body d => env.config d
  | .message _ | .typeError => none

def Reason.response : Reason C D → Option (Nat × D)
  | .axios _ response => response
  | .body d => env.response d
  | .message _ | .typeError => none

def refusal (status : Nat) (data : D) (e : Reason C D) : Reason C D :=
  if status = 403 then .message .forbidden
  else if status = 404 then .message .notFound
  else if status = 429 then .message .rateLimited
  else if 500 ≤ status then .message .serverError
  else if status = 422 then .message .validationError
  else if env.truthy data then .body data
  else e

inductive Reaction (C D : Type) where
  | settle (outcome : Outcome C D)
  | queue (config : Sent C D)

/-- The error interceptor. An error without `config` makes it throw. -/
def reaction (onLine : Bool) (cache : Sent C D → Option D) (e : Reason C D) : Reaction C D :=
  match e.config env, e.response env with
  | none, _ => .settle (.rejected .typeError)
  | some config, none =>
    match cache config with
    | some d => .settle (.fulfilled d)
    | none =>
      if onLine then .settle (.rejected (.message .networkError)) else .queue config
  | some _, some (status, data) => .settle (.rejected (refusal env status data e))

/-! ## Sending, queueing and settling -/

def State.put (call : Nat) (phase : Phase C D) (s : State C D) : State C D :=
  { s with calls := s.calls.modify call fun c => { c with phase } }

def State.send (root call : Nat) (config : Sent C D) (s : State C D) : State C D :=
  { s.put call (.sending config) with sends := s.sends ++ [(root, config)] }

def State.enqueue (entry : Entry C D) (s : State C D) : State C D :=
  { s.put entry.call .queued with offlineQueue := s.offlineQueue ++ [entry] }

/-- A new call, up to where it is sent or held back by the request
interceptor. -/
def api (await : Await C D) (config : Sent C D) (s : State C D) : State C D :=
  let call := s.calls.length
  if !s.onLine && env.queueIfOffline config then
    { s with
      calls := s.calls ++ [⟨config, await, .queued⟩]
      offlineQueue := s.offlineQueue ++ [⟨config, .request, call, await⟩]
      held := if await.isCaller then s.held ++ [call] else s.held }
  else
    { s with
      calls := s.calls ++ [⟨config, await, .sending config⟩]
      sends := s.sends ++ [(await.root call, config)] }

def replay (queue : List (Entry C D)) (s : State C D) : State C D :=
  match queue with
  | [] => s
  | entry :: rest => api env (.handler entry.side entry.call entry.await rest) entry.config s

def settle (cache : Sent C D → Option D) :
    Await C D → Nat → Outcome C D → State C D → State C D
  | .caller, call, o, s => s.put call (.settled o)
  | .handler side n await rest, call, o, s =>
    let s := s.put call (.settled o)
    replay env rest <|
      match side, o with
      | .response, o => settle cache await n o s
      | .request, .fulfilled d => s.send (await.root n) n (.data d)
      | .request, .rejected e =>
        match reaction env s.onLine cache e with
        | .settle o => settle cache await n o s
        | .queue config => s.enqueue ⟨config, .response, n, await⟩

inductive Reply (D : Type) where
  | ok (d : D)
  | refused (status : Nat) (body : D)
  | noResponse

def Reply.reaction (onLine : Bool) (cache : Sent C D → Option D) (config : Sent C D) :
    Reply D → Reaction C D
  | .ok d => .settle (.fulfilled d)
  | .refused status body =>
    OfflineQueue.reaction env onLine cache (.axios config (some (status, body)))
  | .noResponse => OfflineQueue.reaction env onLine cache (.axios config none)

def answer (call : Nat) (reply : Reply D) (cache : Sent C D → Option D) (s : State C D) :
    State C D :=
  match s.calls[call]? with
  | some ⟨_, await, .sending config⟩ =>
    match reply.reaction env s.onLine cache config with
    | .settle o =>
      settle env cache await call o
        { s with outcomes := Function.update s.outcomes (await.root call) (some o) }
    | .queue config => s.enqueue ⟨config, .response, call, await⟩
  | _ => s

inductive Event (C D : Type) where
  | request (c : C)
  | online
  | offline
  | answer (call : Nat) (reply : Reply D) (cache : Sent C D → Option D)

variable (s : State C D)

def step : Event C D → State C D
  | .request c => api env .caller (.config c) s
  | .online =>
    replay env s.offlineQueue
      { s with onLine := true, offlineQueue := [], due := s.calls.length }
  | .offline => { s with onLine := false }
  | .answer call reply cache => answer env call reply cache s

def start (onLine : Bool) : State C D := ⟨onLine, [], [], [], 0, [], fun _ => none⟩

def State.delivered : List Nat :=
  (s.sends.map Prod.fst).filter (· ∈ s.held)

/-- Every request held back is sent as it is, in order, at most once and after the next `online`
event; its caller gets the outcome of that sending; and when we are online with nothing under way,
each has been sent and settled. -/
structure Delivered (s : State C D) : Prop where
  config : ∀ n ∈ s.held, ∀ c x, s.calls[n]? = some c → (n, x) ∈ s.sends → x = c.config
  order : s.delivered.Pairwise (· < ·)
  after : ∀ n ∈ s.delivered, n < s.due
  outcome : ∀ n ∈ s.held, ∀ c o, s.calls[n]? = some c → c.phase = .settled o →
    s.outcomes n = some o
  progress : s.onLine = true → (∀ c ∈ s.calls, ∀ x, c.phase ≠ .sending x) →
    ∀ n ∈ s.held, n < s.due →
      n ∈ s.delivered ∧ ∃ c o, s.calls[n]? = some c ∧ c.phase = .settled o

/-- The connection is not lost while a handler replays its queue, and no answer
is a 401, nor an error whose body is read as one. -/
def Steady : Event C D → Prop
  | .offline => ∀ c ∈ s.calls, c.await.isCaller = false → ∃ o, c.phase = .settled o
  | .answer _ (.refused status body) _ =>
    status ≠ 401 ∧ ∀ data, env.response body ≠ some (401, data)
  | _ => True

/-- A request that was held back, when it is replayed, is rejected with an
error that the error interceptor passes on unchanged. -/
def PassedOn : Event C D → Prop
  | .answer call reply cache =>
    ∀ given n await rest config,
      s.calls[call]? = some ⟨given, .handler .request n await rest, .sending config⟩ →
        ∃ e, reply.reaction env s.onLine cache config = .settle (.rejected e)
          ∧ reaction env s.onLine cache e = .settle (.rejected e)
  | _ => True

section

variable {env : Env C D} {s : State C D} {call n : Nat} {phase : Phase C D}

/-! ## What an update leaves alone -/

theorem put_ne (h : n ≠ call) : (s.put call phase).calls[n]? = s.calls[n]? :=
  getElem?_modify_ne _ _ (Ne.symm h)

theorem put_self {c : Call C D} (h : s.calls[call]? = some c) :
    (s.put call phase).calls[call]? = some { c with phase } := getElem?_modify_self h _

theorem of_put {c : Call C D} (h : (s.put call phase).calls[n]? = some c) :
    ∃ c', s.calls[n]? = some c' ∧ c'.config = c.config ∧ c'.await = c.await
      ∧ (c' = c ∨ (n = call ∧ c.phase = phase)) := by
  by_cases hn : n = call
  · subst hn
    rw [State.put, getElem?_modify_eq] at h
    obtain ⟨c', hc', rfl⟩ := Option.map_eq_some_iff.mp h
    exact ⟨c', hc', rfl, rfl, .inr ⟨rfl, rfl⟩⟩
  · rw [put_ne hn] at h
    exact ⟨c, h, rfl, rfl, .inl rfl⟩

@[simp] theorem put_calls_length : (s.put call phase).calls.length = s.calls.length :=
  length_modify _ _ _

theorem delivered_sent {calls : List (Call C D)} {root : Nat} {config : Sent C D} :
    ({ s with calls, sends := s.sends ++ [(root, config)] } : State C D).delivered
      = s.delivered ++ [root].filter (· ∈ s.held) := by
  simp only [State.delivered, map_append, filter_append]
  rfl

theorem delivered_held (calls : List (Call C D)) (queue : List (Entry C D)) {m : Nat}
    (hm : ∀ p ∈ s.sends, p.1 ≠ m) :
    ({ s with calls, offlineQueue := queue, held := s.held ++ [m] } : State C D).delivered
      = s.delivered := by
  refine filter_congr fun k hk => ?_
  obtain ⟨p, hp, rfl⟩ := mem_map.mp hk
  simp [hm p hp]

end

section

variable {env : Env C D} {s : State C D}

/-! ## Entries that wait -/

/-- The entry is that of a caller whose call waits, and is the request
interceptor's exactly if the request is held back. -/
structure Waiting (s : State C D) (entry : Entry C D) : Prop where
  await : entry.await = .caller
  call : ∃ given, s.calls[entry.call]? = some ⟨given, .caller, .queued⟩
    ∧ (entry.side = .request → given = entry.config)
  side : entry.side = .request ↔ entry.call ∈ s.held

def heldOf (entries : List (Entry C D)) : List Nat :=
  (entries.filter (·.side = .request)).map Queued.call

/-- The entry that is replayed, and those that are still to be sent. -/
def pending : Option (Entry C D) → List (Entry C D) → List (Entry C D)
  | none, todo => todo
  | some entry, todo => entry :: todo

/-- The entries that wait, and what is known of the requests held back. -/
structure Pending (s : State C D) (current : Option (Entry C D)) (todo : List (Entry C D)) :
    Prop where
  waiting : ∀ entry ∈ pending current todo, Waiting s entry
  distinct : ((pending current todo).map Queued.call).Nodup
  order : (s.delivered ++ heldOf todo).Pairwise (· < ·)
  sent : ∀ entry ∈ current, entry.side = .request → entry.call ∈ s.delivered
  config : ∀ n ∈ s.held, ∀ c x, s.calls[n]? = some c → (n, x) ∈ s.sends → x = c.config
  roots : ∀ p ∈ s.sends, p.1 < s.calls.length
  after : ∀ n ∈ s.delivered, n < s.due
  known : ∀ n ∈ s.held,
    (∃ c o, s.calls[n]? = some c ∧ c.phase = .settled o ∧ s.outcomes n = some o
      ∧ n ∈ s.delivered)
    ∨ ∃ entry ∈ pending current todo, entry.call = n

theorem nodup_concat {todo : List (Entry C D)} {entry : Entry C D}
    (h : (todo.map Queued.call).Nodup) (hnew : ∀ other ∈ todo, other.call ≠ entry.call) :
    ((todo ++ [entry]).map Queued.call).Nodup := by
  rw [map_append]
  refine List.Nodup.append h (nodup_singleton _) fun n hn hn' => ?_
  obtain ⟨other, ho, rfl⟩ := mem_map.mp hn
  exact hnew other ho (mem_singleton.mp hn')

theorem heldOf_append (todo rest : List (Entry C D)) :
    heldOf (todo ++ rest) = heldOf todo ++ heldOf rest := by
  rw [heldOf, heldOf, heldOf, filter_append, map_append]

theorem mem_heldOf {entries : List (Entry C D)} {n : Nat} :
    n ∈ heldOf entries ↔ ∃ entry ∈ entries, entry.side = .request ∧ entry.call = n := by
  simp [heldOf, and_assoc]

variable {current : Option (Entry C D)} {todo : List (Entry C D)}

theorem Waiting.lt {entry : Entry C D} (h : Waiting s entry) : entry.call < s.calls.length := by
  obtain ⟨given, hc, -⟩ := h.call
  exact (List.getElem?_eq_some_iff.mp hc).1

theorem Waiting.of_calls {entry : Entry C D} (h : Waiting s entry) {s' : State C D}
    (hcal : s'.calls[entry.call]? = s.calls[entry.call]?)
    (hhe : entry.call ∈ s'.held ↔ entry.call ∈ s.held) : Waiting s' entry :=
  ⟨h.await, hcal ▸ h.call, h.side.trans hhe.symm⟩

theorem Pending.lt (h : Pending s current todo) {n : Nat} (hn : n ∈ s.held) :
    n < s.calls.length := by
  rcases h.known n hn with ⟨c, o, hc, -⟩ | ⟨entry, he, rfl⟩
  · exact (List.getElem?_eq_some_iff.mp hc).1
  · exact (h.waiting entry he).lt

theorem Pending.put (h : Pending s current todo) {call : Nat} {phase : Phase C D}
    (hhe : call ∉ s.held) (hen : ∀ entry ∈ pending current todo, entry.call ≠ call) :
    Pending (s.put call phase) current todo := by
  refine ⟨fun entry he => ?_, h.distinct, h.order, h.sent, fun n hn c x hc hx => ?_,
    fun p hp => ?_, h.after, fun n hn => ?_⟩
  · exact (h.waiting entry he).of_calls (put_ne (hen entry he)) .rfl
  · obtain ⟨c', hc', hco, -⟩ := of_put hc
    exact hco ▸ h.config n hn c' x hc' hx
  · rw [put_calls_length]
    exact h.roots p hp
  · refine (h.known n hn).imp_left ?_
    rintro ⟨c, o, hc, hfac⟩
    have hne : n ≠ call := fun heq => hhe (heq ▸ hn)
    exact ⟨c, o, (put_ne hne).trans hc, hfac⟩

theorem Pending.settled {entry : Entry C D} (h : Pending s (some entry) todo) (o : Outcome C D) :
    Pending { s.put entry.call (.settled o) with
      outcomes := Function.update s.outcomes entry.call (some o) } none todo := by
  have hdi : entry.call ∉ todo.map Queued.call ∧ (todo.map Queued.call).Nodup :=
    nodup_cons.mp h.distinct
  have hne : ∀ other ∈ todo, other.call ≠ entry.call := fun other ho heq =>
    hdi.1 (heq ▸ mem_map_of_mem ho)
  have he : Waiting s entry := h.waiting entry mem_cons_self
  refine ⟨fun other ho => ?_, hdi.2, h.order,
    fun _ hno => absurd hno (Option.not_mem_none _), fun n hn c x hc hx => ?_,
    fun p hp => ?_, h.after, fun n hn => ?_⟩
  · exact (h.waiting other (mem_cons_of_mem _ ho)).of_calls (put_ne (hne other ho)) .rfl
  · obtain ⟨c', hc', hco, -⟩ := of_put hc
    exact hco ▸ h.config n hn c' x hc' hx
  · rw [put_calls_length]
    exact h.roots p hp
  · by_cases hn' : n = entry.call
    · subst hn'
      obtain ⟨given, hcl, -⟩ := he.call
      exact .inl ⟨_, o, put_self hcl, rfl, Function.update_self ..,
        h.sent entry rfl (he.side.mpr hn)⟩
    · rcases h.known n hn with ⟨c, o', hc, hph, hout, hse⟩ | ⟨other, ho, rfl⟩
      · exact .inl ⟨c, o', (put_ne hn').trans hc, hph,
          (Function.update_of_ne hn' _ _).trans hout, hse⟩
      · rcases mem_cons.mp ho with rfl | ho
        · exact absurd rfl hn'
        · exact .inr ⟨other, ho, rfl⟩

theorem Pending.answered (h : Pending s current todo) {n : Nat} (hn : n ∉ s.held)
    (o : Outcome C D) :
    Pending { s with outcomes := Function.update s.outcomes n (some o) } current todo := by
  refine ⟨fun entry he => ?_, h.distinct, h.order, h.sent, h.config, h.roots, h.after,
    fun k hk => ?_⟩
  · exact (h.waiting entry he).of_calls rfl .rfl
  · refine (h.known k hk).imp_left ?_
    rintro ⟨c, o, hc, hp, hout, hse⟩
    have hne : k ≠ n := fun heq => hn (heq ▸ hk)
    exact ⟨c, o, hc, hp, (Function.update_of_ne hne _ _).trans hout, hse⟩

theorem Pending.online (h : Pending s current todo) (queue : List (Entry C D)) :
    Pending { s with onLine := true, offlineQueue := queue, due := s.calls.length }
      current todo := by
  refine ⟨fun entry he => ?_, h.distinct, h.order, h.sent, h.config, h.roots,
    fun n hn => ?_, h.known⟩
  · exact (h.waiting entry he).of_calls rfl .rfl
  · obtain ⟨p, hp, rfl⟩ := mem_map.mp (mem_filter.mp hn).1
    exact h.roots p hp

theorem Pending.offline (h : Pending s current todo) :
    Pending { s with onLine := false } current todo :=
  ⟨fun entry he => (h.waiting entry he).of_calls rfl .rfl, h.distinct, h.order,
    h.sent, h.config, h.roots, h.after, h.known⟩

/-! ## New calls -/

variable {c : Call C D}

theorem concat_calls {n : Nat} (hn : n < s.calls.length) : (s.calls ++ [c])[n]? = s.calls[n]? :=
  getElem?_append_left hn

theorem roots_concat {sends : List (Nat × Sent C D)} (h : Pending s current todo)
    (hsen : ∀ p ∈ sends, p.1 ≤ s.calls.length) :
    ∀ p ∈ s.sends ++ sends, p.1 < (s.calls ++ [c]).length := by
  intro p hp
  rw [length_append]
  rcases mem_append.mp hp with hp | hp
  · exact Nat.lt_succ_of_lt (h.roots p hp)
  · exact Nat.lt_succ_of_le (hsen p hp)

theorem known_concat (h : Pending s current todo) {n : Nat} (hn : n ∈ s.held) :
    (∃ c' o, (s.calls ++ [c])[n]? = some c' ∧ c'.phase = .settled o ∧ s.outcomes n = some o
      ∧ n ∈ s.delivered) ∨ ∃ entry ∈ pending current todo, entry.call = n := by
  refine (h.known n hn).imp_left ?_
  rintro ⟨c', o, hc', hfac⟩
  exact ⟨c', o, (concat_calls (h.lt hn)).trans hc', hfac⟩

theorem Pending.request (h : Pending s current todo) (await : Await C D) (config : Sent C D) :
    Pending { s with
      calls := s.calls ++ [⟨config, await, .sending config⟩]
      sends := s.sends ++ [(s.calls.length, config)] } current todo := by
  have hnew : s.calls.length ∉ s.held := fun hmem => absurd (h.lt hmem) (Nat.lt_irrefl _)
  have hdel : ({ s with
      calls := s.calls ++ [⟨config, await, .sending config⟩]
      sends := s.sends ++ [(s.calls.length, config)] } : State C D).delivered = s.delivered := by
    rw [delivered_sent]
    simp [hnew]
  refine ⟨fun entry he => ?_, h.distinct, ?_, ?_, fun n hn c x hc hx => ?_,
    roots_concat h fun p hp => ?_, ?_, fun n hn => ?_⟩
  · have he := h.waiting entry he
    exact he.of_calls (concat_calls he.lt) .rfl
  · rw [hdel]
    exact h.order
  · rw [hdel]
    exact h.sent
  · have hlt := h.lt hn
    rw [concat_calls hlt] at hc
    rcases mem_append.mp hx with hx | hx
    · exact h.config n hn c x hc hx
    · obtain ⟨rfl, -⟩ := Prod.mk.inj (mem_singleton.mp hx)
      exact absurd hlt (Nat.lt_irrefl _)
  · obtain rfl := mem_singleton.mp hp
    exact le_rfl
  · rw [hdel]
    exact h.after
  · rw [hdel]
    exact known_concat h hn

theorem Pending.hold (h : Pending s none todo) (config : Sent C D) (queue : List (Entry C D)) :
    Pending { s with
      calls := s.calls ++ [⟨config, .caller, .queued⟩]
      offlineQueue := queue
      held := s.held ++ [s.calls.length] } none
      (todo ++ [⟨config, .request, s.calls.length, .caller⟩]) := by
  have hroo : ∀ p ∈ s.sends, p.1 ≠ s.calls.length := fun p hp => Nat.ne_of_lt (h.roots p hp)
  have hdel := delivered_held (s.calls ++ [⟨config, .caller, .queued⟩]) queue hroo
  have hnew : ∀ entry ∈ todo, entry.call ≠ s.calls.length := fun entry he =>
    Nat.ne_of_lt (h.waiting entry he).lt
  refine ⟨fun entry he => ?_, nodup_concat h.distinct hnew, ?_,
    fun _ hno => absurd hno (Option.not_mem_none _), fun n hn c x hc hx => ?_, fun p hp => ?_,
    ?_, fun n hn => ?_⟩
  · rcases mem_append.mp he with he | he
    · have hwa := h.waiting entry he
      refine hwa.of_calls (concat_calls hwa.lt) ?_
      simp [hnew entry he]
    · obtain rfl := mem_singleton.mp he
      refine ⟨rfl, ⟨config, ?_, fun _ => rfl⟩, iff_of_true rfl ?_⟩
      · exact getElem?_concat_length
      · exact mem_append_right _ mem_cons_self
  · rw [hdel, heldOf_append, ← append_assoc]
    refine pairwise_append.mpr ⟨h.order, pairwise_singleton _ _, fun n hn m hm => ?_⟩
    obtain rfl := mem_singleton.mp hm
    rcases mem_append.mp hn with hn | hn
    · obtain ⟨p, hp, rfl⟩ := mem_map.mp (mem_filter.mp hn).1
      exact h.roots p hp
    · obtain ⟨entry, he, -, rfl⟩ := mem_heldOf.mp hn
      exact (h.waiting entry he).lt
  · rcases mem_append.mp hn with hn | hn
    · rw [concat_calls (h.lt hn)] at hc
      exact h.config n hn c x hc hx
    · exact absurd (mem_singleton.mp hn) (hroo (n, x) hx)
  · rw [length_append]
    exact Nat.lt_succ_of_lt (h.roots p hp)
  · rw [hdel]
    exact h.after
  · rw [hdel]
    rcases mem_append.mp hn with hn | hn
    · refine (known_concat h hn).imp_right ?_
      rintro ⟨entry, he, heq⟩
      exact ⟨entry, mem_append_left _ he, heq⟩
    · have hl : n = s.calls.length := mem_singleton.mp hn
      exact .inr ⟨_, mem_append_right _ mem_cons_self, hl.symm⟩

theorem Pending.enqueue (h : Pending s none todo) {call : Nat} {given config x : Sent C D}
    (hc : s.calls[call]? = some ⟨given, .caller, .sending x⟩) (hhe : call ∉ s.held)
    (queue : List (Entry C D)) : Pending { s.put call .queued with offlineQueue := queue } none
      (todo ++ [⟨config, .response, call, .caller⟩]) := by
  have hne : ∀ entry ∈ todo, entry.call ≠ call := by
    intro entry he heq
    obtain ⟨given', hqu, -⟩ := (h.waiting entry he).call
    rw [heq, hc] at hqu
    cases hqu
  have hput : Pending (s.put call .queued) none todo := h.put hhe hne
  refine ⟨fun entry he => ?_, nodup_concat h.distinct hne, ?_,
    fun _ hno => absurd hno (Option.not_mem_none _), hput.config, hput.roots, hput.after,
    fun n hn => ?_⟩
  · rcases mem_append.mp he with he | he
    · exact (hput.waiting entry he).of_calls rfl .rfl
    · obtain rfl := mem_singleton.mp he
      exact ⟨rfl, ⟨given, put_self hc, fun hsi => by cases hsi⟩, iff_of_false Side.noConfusion hhe⟩
  · have hs : heldOf (todo ++ [⟨config, .response, call, .caller⟩]) = heldOf todo :=
      (heldOf_append todo _).trans (append_nil _)
    rw [hs]
    exact h.order
  · refine (hput.known n hn).imp_right ?_
    rintro ⟨entry, he, heq⟩
    exact ⟨entry, mem_append_left _ he, heq⟩

theorem Pending.replay {entry : Entry C D} (h : Pending s none (entry :: todo))
    (hdue : entry.side = .request → entry.call < s.due) (rest : List (Entry C D)) : Pending { s with
      calls := s.calls ++ [⟨entry.config, .handler entry.side entry.call entry.await rest,
        .sending entry.config⟩]
      sends := s.sends ++ [(entry.call, entry.config)] } (some entry) todo := by
  have he : Waiting s entry := h.waiting entry mem_cons_self
  have hdel : ({ s with
      calls := s.calls ++ [⟨entry.config, .handler entry.side entry.call entry.await rest,
        .sending entry.config⟩]
      sends := s.sends ++ [(entry.call, entry.config)] } : State C D).delivered
        = s.delivered ++ heldOf [entry] := by
    rw [delivered_sent]
    by_cases hs : entry.side = .request
    · simp [heldOf, hs, he.side.mp hs]
    · have hnot : entry.call ∉ s.held := fun hmem => hs (he.side.mpr hmem)
      simp [heldOf, hs, hnot]
  refine ⟨fun other ho => ?_, h.distinct, ?_, fun other ho hs => ?_,
    fun n hn c x hc hx => ?_, roots_concat h fun p hp => ?_, fun n hn => ?_, fun n hn => ?_⟩
  · have hwa := h.waiting other ho
    exact hwa.of_calls (concat_calls hwa.lt) .rfl
  · rw [hdel, append_assoc, ← heldOf_append]
    exact h.order
  · cases ho
    rw [hdel]
    exact mem_append_right _ (mem_heldOf.mpr ⟨entry, mem_cons_self, hs, rfl⟩)
  · rw [concat_calls (h.lt hn)] at hc
    rcases mem_append.mp hx with hx | hx
    · exact h.config n hn c x hc hx
    · obtain ⟨rfl, rfl⟩ := Prod.mk.inj (mem_singleton.mp hx)
      obtain ⟨given, hcl, hgiv⟩ := he.call
      obtain rfl := Option.mem_unique hcl hc
      exact (hgiv (he.side.mpr hn)).symm
  · obtain rfl := mem_singleton.mp hp
    exact Nat.le_of_lt he.lt
  · rw [hdel] at hn
    rcases mem_append.mp hn with hn | hn
    · exact h.after n hn
    · obtain ⟨other, ho, hs, rfl⟩ := mem_heldOf.mp hn
      obtain rfl := mem_singleton.mp ho
      exact hdue hs
  · rw [hdel]
    rcases known_concat h hn with ⟨c, o, hc, hph, hout, hse⟩ | hw
    · exact .inl ⟨c, o, hc, hph, hout, mem_append_left _ hse⟩
    · exact .inr hw

theorem Pending.free (h : Pending s current todo) {m : Nat} {x : Sent C D}
    (hc : s.calls[m]? = some c) (hp : c.phase = .sending x) :
    m ∉ s.held ∧ ∀ entry ∈ pending current todo, entry.call ≠ m := by
  have hen : ∀ entry ∈ pending current todo, entry.call ≠ m := by
    rintro entry he rfl
    obtain ⟨given, hqu, -⟩ := (h.waiting entry he).call
    obtain rfl := Option.mem_unique hc hqu
    cases hp
  refine ⟨fun hm => ?_, hen⟩
  rcases h.known m hm with ⟨c', o, hc', hse, -⟩ | ⟨entry, he, heq⟩
  · obtain rfl := Option.mem_unique hc hc'
    rw [hp] at hse
    cases hse
  · exact hen entry he heq

theorem Pending.outcome (h : Pending s current todo) {n : Nat} (hn : n ∈ s.held) {o : Outcome C D}
    (hc : s.calls[n]? = some c) (hp : c.phase = .settled o) : s.outcomes n = some o := by
  rcases h.known n hn with ⟨c', o', hc', hp', hout, -⟩ | ⟨entry, he, rfl⟩
  · obtain rfl := Option.mem_unique hc hc'
    obtain rfl := Phase.settled.inj (hp.symm.trans hp')
    exact hout
  · obtain ⟨given, hqu, -⟩ := (h.waiting entry he).call
    obtain rfl := Option.mem_unique hc hqu
    cases hp

end

section

variable {env : Env C D} {s : State C D}

/-- No handler replays its queue. -/
structure Idle (s : State C D) : Prop where
  pending : Pending s none s.offlineQueue
  replays : ∀ (m : Nat) (c : Call C D), s.calls[m]? = some c → c.await.isCaller = false →
    ∃ o, c.phase = .settled o
  due : s.due ≤ s.calls.length
  fresh : ∀ entry ∈ s.offlineQueue, entry.side = .request → s.due ≤ entry.call

/-- Call `m` replays `entry`, and then `rest` is to be sent. -/
structure Busy (s : State C D) (m : Nat) (entry : Entry C D) (rest : List (Entry C D)) :
    Prop where
  pending : Pending s (some entry) rest
  call : s.calls[m]? = some ⟨entry.config,
    .handler entry.side entry.call entry.await rest, .sending entry.config⟩
  replays : ∀ (k : Nat) (c : Call C D), k ≠ m → s.calls[k]? = some c →
    c.await.isCaller = false → ∃ o, c.phase = .settled o
  due : s.due ≤ s.calls.length
  late : ∀ entry ∈ rest, entry.call < s.due
  online : s.onLine = true
  empty : s.offlineQueue = []

def Orderly (s : State C D) : Prop :=
  Idle s ∨ ∃ m entry rest, Busy s m entry rest

theorem Idle.delivered (h : Idle s) : Delivered s := by
  have hp := h.pending
  refine ⟨hp.config, (pairwise_append.mp hp.order).1, hp.after,
    fun n hn c o hc hph => hp.outcome hn hc hph, fun _ _ n hn hdue => ?_⟩
  rcases hp.known n hn with ⟨c, o, hc, hph, -, hse⟩ | ⟨entry, he, rfl⟩
  · exact ⟨hse, c, o, hc, hph⟩
  · have hs := (hp.waiting entry he).side.mpr hn
    exact absurd (h.fresh entry he hs) (Nat.not_le_of_lt hdue)

variable {m : Nat}

theorem Busy.delivered {entry : Entry C D} {rest : List (Entry C D)} (h : Busy s m entry rest) :
    Delivered s := by
  have hp := h.pending
  refine ⟨hp.config, (pairwise_append.mp hp.order).1, hp.after,
    fun n hn c o hc hph => hp.outcome hn hc hph, fun _ hno => ?_⟩
  exact absurd rfl (hno _ (mem_of_getElem? h.call) entry.config)

theorem Orderly.delivered (h : Orderly s) : Delivered s := by
  rcases h with h | ⟨m, entry, rest, h⟩
  · exact h.delivered
  · exact h.delivered

/-! ## One step -/

theorem api_online (honl : s.onLine) (await : Await C D) (config : Sent C D) :
    api env await config s = { s with
      calls := s.calls ++ [⟨config, await, .sending config⟩]
      sends := s.sends ++ [(await.root s.calls.length, config)] } := by
  simp [api, honl]

theorem due_concat (h : s.due ≤ s.calls.length) (c : Call C D) :
    s.due ≤ (s.calls ++ [c]).length := by
  rw [length_append]
  exact Nat.le_succ_of_le h

theorem orderly_replay {todo : List (Entry C D)} (hp : Pending s none todo)
    (hre : ∀ (m : Nat) (c : Call C D), s.calls[m]? = some c → c.await.isCaller = false →
      ∃ o, c.phase = .settled o)
    (hdue : s.due ≤ s.calls.length) (hla : ∀ entry ∈ todo, entry.call < s.due)
    (honl : s.onLine) (hnil : s.offlineQueue = []) : Orderly (replay env todo s) := by
  cases todo with
  | nil =>
    rw [replay]
    refine .inl ⟨?_, hre, hdue, fun entry he => ?_⟩
    · rwa [hnil]
    · rw [hnil] at he
      cases he
  | cons entry rest =>
    have he : Waiting s entry := hp.waiting entry mem_cons_self
    have hro : (Await.handler entry.side entry.call entry.await rest).root s.calls.length
        = entry.call := by rw [Await.root, he.await, Await.root]
    rw [replay, api_online honl, hro]
    refine .inr ⟨s.calls.length, entry, rest, hp.replay (fun _ => hla entry
      mem_cons_self) rest, getElem?_concat_length, fun k c hk hc hcl => ?_,
      due_concat hdue _, fun other ho => hla other (mem_cons_of_mem _ ho),
      honl, hnil⟩
    rcases getElem?_concat_cases hc with hc | ⟨rfl, -⟩
    · exact hre k c hc hcl
    · exact absurd rfl hk

variable {c : Call C D} {config : Sent C D}

theorem of_concat_caller {phase : Phase C D}
    (hc : (s.calls ++ [⟨config, .caller, phase⟩])[m]? = some c)
    (hcl : c.await.isCaller = false) : s.calls[m]? = some c := by
  rcases getElem?_concat_cases hc with hold | ⟨-, rfl⟩
  · exact hold
  · cases hcl

theorem orderly_request (h : Orderly s) (c : C) : Orderly (step env s (.request c)) := by
  rw [step]
  rcases h with h | ⟨m, entry, rest, h⟩
  · unfold api
    split
    · refine .inl ⟨h.pending.hold _ _, fun m c' hc' hc => ?_, due_concat h.due _, ?_⟩
      · exact h.replays m c' (of_concat_caller hc' hc) hc
      · intro entry he hs
        rcases mem_append.mp he with he | he
        · exact h.fresh entry he hs
        · obtain rfl := mem_singleton.mp he
          exact h.due
    · refine .inl ⟨h.pending.request _ _, fun m c' hc' hc => ?_, due_concat h.due _, h.fresh⟩
      exact h.replays m c' (of_concat_caller hc' hc) hc
  · rw [api_online h.online]
    refine .inr ⟨m, entry, rest, h.pending.request _ _, getElem?_concat_of_some h.call,
      fun k c' hk hc' hc => ?_, due_concat h.due _, h.late, h.online, h.empty⟩
    exact h.replays k c' hk (of_concat_caller hc' hc) hc

theorem orderly_online (h : Orderly s) : Orderly (step env s .online) := by
  rw [step]
  rcases h with h | ⟨m, entry, rest, h⟩
  · exact orderly_replay (h.pending.online []) h.replays le_rfl
      (fun entry he => (h.pending.waiting entry he).lt) rfl rfl
  · rw [h.empty, replay]
    exact .inr ⟨m, entry, rest, h.pending.online [], h.call, h.replays, le_rfl,
      fun other ho => (h.pending.waiting other (mem_cons_of_mem _ ho)).lt, rfl, rfl⟩

theorem orderly_offline (h : Orderly s) (hst : Steady env s .offline) :
    Orderly (step env s .offline) := by
  rw [step]
  rcases h with h | ⟨m, entry, rest, h⟩
  · exact .inl ⟨h.pending.offline, h.replays, h.due, h.fresh⟩
  · obtain ⟨o, ho⟩ := hst _ (mem_of_getElem? h.call) rfl
    cases ho

/-! ## Answers -/

variable {cache : Sent C D → Option D}

theorem reaction_online (e : Reason C D) : ∃ o, reaction env true cache e = .settle o := by
  unfold reaction
  split
  · exact ⟨_, rfl⟩
  · split
    · exact ⟨_, rfl⟩
    · exact ⟨_, rfl⟩
  · exact ⟨_, rfl⟩

variable {reply : Reply D}

theorem reply_online : ∃ o, reply.reaction env true cache config = .settle o := by
  cases reply with
  | ok => exact ⟨_, rfl⟩
  | refused status body | noResponse =>
    simp only [Reply.reaction]
    exact reaction_online _

theorem Pending.direct {current : Option (Entry C D)} {todo : List (Entry C D)}
    (h : Pending s current todo) {x : Sent C D} (hc : s.calls[m]? = some c)
    (hp : c.phase = .sending x) (o : Outcome C D) :
    Pending (({ s with outcomes := Function.update s.outcomes m (some o) } : State C D).put m
      (.settled o)) current todo := by
  obtain ⟨hhe, hen⟩ := h.free hc hp
  exact (h.answered hhe o).put hhe hen

theorem answer_cases : answer env m reply cache s = s
      ∨ ∃ given await config, s.calls[m]? = some ⟨given, await, .sending config⟩ := by
  unfold answer
  split
  · rename_i given await config hc
    exact .inr ⟨given, await, config, hc⟩
  · exact .inl rfl

variable {cache : Sent C D → Option D} {reply : Reply D}

theorem answer_settle {given : Sent C D} {await : Await C D} {o : Outcome C D}
    (hc : s.calls[m]? = some ⟨given, await, .sending config⟩)
    (hr : reply.reaction env s.onLine cache config = .settle o) :
    answer env m reply cache s = settle env cache await m o
      { s with outcomes := Function.update s.outcomes (await.root m) (some o) } := by
  simp only [answer, hc, hr]

theorem answer_queue {given c' : Sent C D} {await : Await C D}
    (hc : s.calls[m]? = some ⟨given, await, .sending config⟩)
    (hr : reply.reaction env s.onLine cache config = .queue c') :
    answer env m reply cache s = s.enqueue ⟨c', .response, m, await⟩ := by
  simp only [answer, hc, hr]

theorem settled_put {call : Nat} {o : Outcome C D}
    (h : (s.put call (.settled o)).calls[m]? = some c)
    (hs : ∀ c', s.calls[m]? = some c' → c'.await = c.await → m ≠ call →
      ∃ o, c'.phase = .settled o) : ∃ o, c.phase = .settled o := by
  by_cases hm : m = call
  · subst hm
    rw [State.put, getElem?_modify_eq] at h
    obtain ⟨c', -, rfl⟩ := Option.map_eq_some_iff.mp h
    exact ⟨o, rfl⟩
  · rw [put_ne hm] at h
    exact hs c h rfl hm

theorem Idle.answer (h : Idle s) (m : Nat) (reply : Reply D) (cache : Sent C D → Option D) :
    Idle (answer env m reply cache s) := by
  rcases answer_cases with hsm | ⟨given, await, config, hcl⟩
  · rwa [hsm]
  · cases await with
    | handler =>
      obtain ⟨o, ho⟩ := h.replays m _ hcl rfl
      cases ho
    | caller =>
      cases hr : reply.reaction env s.onLine cache config with
      | settle o =>
        rw [answer_settle hcl hr]
        refine ⟨h.pending.direct hcl rfl o, fun k c hc hcal => ?_, ?_, h.fresh⟩
        · refine settled_put hc fun c' hc' ha _ => ?_
          exact h.replays k c' hc' (ha ▸ hcal)
        · exact (put_calls_length (s := s)).symm ▸ h.due
      | queue =>
        rw [answer_queue hcl hr]
        obtain ⟨hhe, -⟩ := h.pending.free hcl rfl
        refine ⟨h.pending.enqueue hcl hhe _, fun k c hc hcal => ?_, ?_, ?_⟩
        · obtain ⟨c', hc', -, ha, rfl | ⟨rfl, -⟩⟩ := of_put hc
          · exact h.replays k c' hc' hcal
          · obtain rfl := Option.mem_unique hcl hc'
            rw [← ha] at hcal
            cases hcal
        · exact (put_calls_length (s := s)).symm ▸ h.due
        · intro entry he hs
          rcases mem_append.mp he with he | he
          · exact h.fresh entry he hs
          · obtain rfl := mem_singleton.mp he
            cases hs

variable {k : Nat} {entry : Entry C D} {rest : List (Entry C D)}

theorem Busy.answer_other (h : Busy s k entry rest) (hm : m ≠ k) (reply : Reply D)
    (cache : Sent C D → Option D) : Busy (answer env m reply cache s) k entry rest := by
  rcases answer_cases with hs | ⟨given, await, config, hcl⟩
  · rwa [hs]
  · cases await with
    | handler =>
      obtain ⟨o, ho⟩ := h.replays m _ hm hcl rfl
      cases ho
    | caller =>
      obtain ⟨o, hr⟩ := reply_online
      rw [← h.online] at hr
      rw [answer_settle hcl hr]
      refine ⟨h.pending.direct hcl rfl o, (put_ne (Ne.symm hm)).trans h.call,
        fun j c hj hc hcal => ?_, ?_, h.late, h.online, h.empty⟩
      · refine settled_put hc fun c' hc' ha _ => ?_
        exact h.replays j c' hj hc' (ha ▸ hcal)
      · exact (put_calls_length (s := s)).symm ▸ h.due

def State.returned (s : State C D) (k n : Nat) (o : Outcome C D) : State C D :=
  State.put k (.settled o) { s with outcomes := Function.update s.outcomes n (some o) }

theorem Busy.finish (h : Busy s k entry rest) (o : Outcome C D) :
    Orderly (replay env rest ((s.returned k entry.call o).put entry.call (.settled o))) := by
  obtain ⟨hhe, hen⟩ := h.pending.free h.call rfl
  have hp : Pending ((s.returned k entry.call o).put entry.call (.settled o)) none rest :=
    (h.pending.put hhe hen).settled o
  refine orderly_replay hp (fun j c hc hcl => ?_) ?_ h.late h.online h.empty
  · refine settled_put hc fun c' hc' ha _ => ?_
    refine settled_put hc' fun c'' hc'' ha' hj => ?_
    exact h.replays j c'' hj hc'' (by rw [ha', ha]; exact hcl)
  · have hlen : ((s.returned k entry.call o).put entry.call (.settled o)).calls.length
        = s.calls.length := by simp [State.returned]
    rw [hlen]
    exact h.due

theorem Busy.answer_response_eq (h : Busy s k entry rest) (hs : entry.side = .response)
    {o : Outcome C D} (hr : reply.reaction env s.onLine cache entry.config = .settle o) :
    answer env k reply cache s
      = replay env rest ((s.returned k entry.call o).put entry.call (.settled o)) := by
  have ha : entry.await = .caller := (h.pending.waiting entry mem_cons_self).await
  have hc := h.call
  rw [hs, ha] at hc
  rw [answer_settle hc hr]
  rfl

variable {e : Reason C D}

theorem Busy.answer_rejected_eq (h : Busy s k entry rest) (hs : entry.side = .request)
    {o : Outcome C D} (hr : reply.reaction env s.onLine cache entry.config = .settle (.rejected e))
    (haga : reaction env s.onLine cache e = .settle o) :
    answer env k reply cache s = replay env rest
      ((s.returned k entry.call (.rejected e)).put entry.call (.settled o)) := by
  have ha : entry.await = .caller := (h.pending.waiting entry mem_cons_self).await
  have hc := h.call
  rw [hs, ha] at hc
  have hre : reaction env (s.returned k entry.call (.rejected e)).onLine cache e = .settle o := haga
  rw [answer_settle hc hr, settle]
  simp only [State.returned] at hre
  simp only [Await.root, hre]
  rfl

theorem Busy.answer_response (h : Busy s k entry rest) (hs : entry.side = .response)
    (reply : Reply D) (cache : Sent C D → Option D) : Orderly (answer env k reply cache s) := by
  obtain ⟨o, hr⟩ := reply_online
  rw [← h.online] at hr
  rw [h.answer_response_eq hs hr]
  exact h.finish o

/-! ## Whole runs -/

theorem orderly_answer (h : Orderly s) (hpa : PassedOn env s (.answer m reply cache)) :
    Orderly (answer env m reply cache s) := by
  rcases h with h | ⟨k, entry, rest, h⟩
  · exact .inl (h.answer m reply cache)
  · by_cases hm : m = k
    · subst hm
      cases hs : entry.side with
      | response => exact h.answer_response hs reply cache
      | request =>
        obtain ⟨e, hr, haga⟩ := hpa _ _ _ _ _ (hs ▸ h.call)
        rw [h.answer_rejected_eq hs hr haga]
        exact h.finish _
    · exact .inr ⟨k, entry, rest, h.answer_other hm reply cache⟩

theorem orderly_step (h : Orderly s) {e : Event C D} (hst : Steady env s e)
    (hpa : PassedOn env s e) : Orderly (step env s e) := by
  cases e with
  | request c => exact orderly_request h c
  | online => exact orderly_online h
  | offline => exact orderly_offline h hst
  | answer => exact orderly_answer h hpa

end

variable {onLine : Bool}

theorem orderly_start : Orderly (start onLine : State C D) := by
  refine .inl ⟨⟨?_, nodup_nil, List.Pairwise.nil, ?_, ?_, ?_, ?_, ?_⟩, ?_, le_rfl, ?_⟩
  all_goals simp [start, pending, State.delivered]

/-- Which errors are passed on: those of a status without a message of its own
and with an empty body. -/
theorem passed_on_of_empty (env : Env C D) (cache : Sent C D → Option D)
    (config : Sent C D) {status : Nat} {body : D} (hst : status ∉ [403, 404, 429, 422])
    (hse : status < 500) (hb : env.truthy body = false) :
    ∃ e, (Reply.refused status body).reaction env onLine cache config = .settle (.rejected e)
      ∧ reaction env onLine cache e = .settle (.rejected e) := by
  have hre : refusal env status body (.axios config (some (status, body)))
      = .axios config (some (status, body)) := by
    simp only [mem_cons, not_mem_nil, or_false, not_or] at hst
    obtain ⟨h403, h404, h429, h422⟩ := hst
    simp [refusal, h403, h404, h429, h422, hb, Nat.not_le_of_lt hse]
  have hs : reaction env onLine cache (.axios config (some (status, body)))
      = .settle (.rejected (.axios config (some (status, body)))) := by
    simp only [reaction, Reason.config, Reason.response, hre]
  exact ⟨_, hs, hs⟩

def texts : Env String String where
  queueIfOffline := fun _ => true
  truthy := fun d => d ≠ ""
  config := fun _ => none
  response := fun _ => none

def refusedBoth : List (Event String String) :=
  [.request "/likes", .request "/messages", .online,
   .answer 2 (.refused 400 "") fun _ => none, .answer 3 (.refused 409 "") fun _ => none]

end SexySelfies.OfflineQueue
