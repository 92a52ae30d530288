import Mathlib.Logic.Function.Basic
import Mathlib.Tactic.Common
import SexySelfies.Runs

/-!
# Answers from the browser's cache

The two interceptors of `api.config.js` keep the data of successful GET requests in `localStorage`,
and answer a GET that fails without a response from there. The key is made of the url alone: neither
the query parameters nor the user is part of it.

A token is represented by the user it was issued to.
-/

namespace SexySelfies.ApiCache

open Runs List

inductive Role where
  | member
  | creator
  | admin

inductive Method where
  | get
  | other
deriving DecidableEq

structure Config (P : Type) where
  method : Method
  url : String
  params : P
  cache : Bool

structure Entry (D : Type) where
  data : D
  timestamp : Nat
  expires : Nat

structure Storage (U D : Type) where
  token : Option U
  adminToken : Option U
  creatorToken : Option U
  memberToken : Option U
  cache : String → Option (Entry D)

structure Sent (U P : Type) where
  config : Config P
  user : Option U

structure Received (U P D : Type) where
  url : String
  params : P
  user : Option U
  data : D
  time : Nat

/-- `authorization` is the header in `api.defaults`. -/
structure Browser (U P D : Type) where
  storage : Storage U D
  authorization : Option U
  pending : List (Sent U P)
  responses : List (Received U P D)
  sources : String → Option (Received U P D)

variable {U P D : Type}

def Storage.empty : Storage U D := ⟨none, none, none, none, fun _ => none⟩

variable (b : Browser U P D)

/-- The user of a request: the request interceptor takes the first token it
finds, and the header of `api.defaults` stays when there is none. -/
def Browser.user : Option U :=
  b.storage.token <|> b.storage.adminToken <|> b.storage.creatorToken <|> b.storage.memberToken
    <|> b.authorization

def lifetime : Nat := 5 * 60 * 1000

def clearExpiredCache (now : Nat) (s : Storage U D) : Storage U D :=
  { s with cache := fun url => (s.cache url).filter fun e => !decide (e.expires < now) }

/-- The response interceptor. `json` is what JSON keeps of the data, and `room`
whether the storage accepts the entry. -/
def onResponse (json : D → D) (config : Config P) (data : D) (room : Bool) (now : Nat)
    (s : Storage U D) : Storage U D :=
  if config.method = .get ∧ config.cache then
    if room then
      { s with cache := Function.update s.cache config.url
                 (some ⟨json data, now, now + lifetime⟩) }
    else clearExpiredCache now s
  else s

def onNetworkError (config : Config P) (now : Nat) (s : Storage U D) : Option D :=
  if config.method = .get then
    match s.cache config.url with
    | some cache => if now < cache.expires then some cache.data else none
    | none => none
  else none

def setAuthToken (user : Option U) (b : Browser U P D) : Browser U P D :=
  { b with authorization := user, storage := { b.storage with token := user } }

def login (role : Role) (user : U) (b : Browser U P D) : Browser U P D :=
  let s := { b.storage with token := some user }
  let s := match role with
    | .member => { s with memberToken := some user }
    | .creator => { s with creatorToken := some user }
    | .admin => { s with adminToken := some user }
  setAuthToken (some user) { b with storage := s }

def adminLoginPage (user : U) (b : Browser U P D) : Browser U P D :=
  { b with storage := { b.storage with token := some user, adminToken := some user } }

def clearStorage : Browser U P D := { b with storage := .empty }

def logout (called : Bool) (b : Browser U P D) : Browser U P D :=
  if called then setAuthToken none (clearStorage b) else clearStorage b

def handleLogout : Browser U P D :=
  { b with storage := { b.storage with
      token := none, adminToken := none, creatorToken := none, memberToken := none } }

/-! ## Runs -/

/-- `respond`, `networkError` and `refuse` are the ends a request that waits
can come to: a response, none, or one with an error status. -/
inductive Event (U P D : Type) where
  | login (role : Role) (user : U)
  | adminLoginPage (user : U)
  | refreshed (user : U)
  | logout (called : Bool)
  | handleLogout
  | reload
  | send (config : Config P)
  | respond (i : Nat) (data : D) (room : Bool) (now : Nat)
  | networkError (i : Nat) (now : Nat)
  | refuse (i : Nat)

variable (json : D → D)

def receive (sent : Sent U P) (data : D) (room : Bool) (now : Nat) (b : Browser U P D) :
    Browser U P D :=
  let received := ⟨sent.config.url, sent.config.params, sent.user, data, now⟩
  { b with
    storage := onResponse json sent.config data room now b.storage
    responses := received :: b.responses
    sources :=
      if sent.config.method = .get ∧ sent.config.cache ∧ room then
        Function.update b.sources sent.config.url (some received)
      else b.sources }

variable (b : Browser U P D)

def step : Event U P D → Browser U P D
  | .login role user => login role user b
  | .adminLoginPage user => adminLoginPage user b
  | .refreshed user => setAuthToken (some user) b
  | .logout called => logout called b
  | .handleLogout => handleLogout b
  | .reload => { b with authorization := none, pending := [] }
  | .send config => { b with pending := b.pending ++ [⟨config, b.user⟩] }
  | .respond i data room now =>
    match b.pending[i]? with
    | some sent => receive json sent data room now { b with pending := b.pending.eraseIdx i }
    | none => b
  | .networkError i _ => { b with pending := b.pending.eraseIdx i }
  | .refuse i => { b with pending := b.pending.eraseIdx i }

def start : Browser U P D := ⟨.empty, none, [], [], fun _ => none⟩

def answer : Event U P D → Option (Sent U P × D)
  | .networkError i now =>
    match b.pending[i]? with
    | some sent => (onNetworkError sent.config now b.storage).map fun data => (sent, data)
    | none => none
  | _ => none

def Event.now : Event U P D → Nat
  | .respond _ _ _ now => now
  | .networkError _ now => now
  | _ => 0

/-- An answer from the cache is the data of an earlier response to the same
url with the same parameters for the same user, at most five minutes old. -/
def Answered (e : Event U P D) : Prop :=
  ∀ sent data, answer b e = some (sent, data) →
    ∃ r ∈ b.responses, r.url = sent.config.url ∧ r.params = sent.config.params
      ∧ r.user = sent.user ∧ r.data = data ∧ e.now ≤ r.time + lifetime

/-- Whenever the cache answers, the last response stored for the url was for
the same user and the same parameters, and is what JSON keeps of it. -/
def Own (e : Event U P D) : Prop :=
  ∀ sent data, answer b e = some (sent, data) →
    ∃ r, b.sources sent.config.url = some r ∧ r.params = sent.config.params
      ∧ r.user = sent.user ∧ json r.data = r.data

/-- No two responses have the same data once stored. -/
def Apart (rs : List (Received U P D)) : Prop :=
  ∀ r ∈ rs, ∀ r' ∈ rs, json r.data = r'.data → r = r'

section

variable {json : D → D} {b : Browser U P D}

/-! ## Where the entries come from -/

/-- Every entry is what was kept of the last response stored for its url. -/
def Sourced (json : D → D) (b : Browser U P D) : Prop :=
  ∀ url cache, b.storage.cache url = some cache →
    ∃ r ∈ b.responses, b.sources url = some r ∧ r.url = url ∧ cache.data = json r.data
      ∧ cache.expires = r.time + lifetime

theorem Sourced.of_entries (h : Sourced json b) {b' : Browser U P D}
    (hcac : ∀ url cache, b'.storage.cache url = some cache → b.storage.cache url = some cache)
    (hres : b'.responses = b.responses) (hso : b'.sources = b.sources) : Sourced json b' := by
  intro url cache hmem
  rw [hres, hso]
  exact h url cache (hcac url cache hmem)

theorem login_entries (role : Role) (user : U) :
    (login role user b).storage.cache = b.storage.cache := by
  cases role <;> rfl

theorem logout_entries (c : Bool) (url : String) : (logout c b).storage.cache url = none := by
  cases c <;> rfl

theorem sourced_receive (h : Sourced json b) (sent : Sent U P) (data : D) (room : Bool)
    (now : Nat) : Sourced json (receive json sent data room now b) := by
  intro url cache hmem
  by_cases hget : sent.config.method = .get ∧ sent.config.cache
  · cases room with
    | false =>
      have hold : b.storage.cache url = some cache := by
        simp only [receive, onResponse, if_pos hget] at hmem
        exact (Option.filter_eq_some_iff.mp hmem).1
      obtain ⟨r, hr, hsrc, hfac⟩ := h url cache hold
      refine ⟨r, mem_cons_of_mem _ hr, ?_, hfac⟩
      simpa [receive] using hsrc
    | true =>
      have hst : Function.update b.storage.cache sent.config.url
          (some ⟨json data, now, now + lifetime⟩) url = some cache := by
        simpa only [receive, onResponse, if_pos hget, if_true] using hmem
      have hso : (receive json sent data true now b).sources
          = Function.update b.sources sent.config.url
            (some ⟨sent.config.url, sent.config.params, sent.user, data, now⟩) := by
        simp [receive, hget]
      rw [hso]
      by_cases hurl : url = sent.config.url
      · subst hurl
        rw [Function.update_self] at hst
        cases hst
        exact ⟨_, mem_cons_self, Function.update_self .., rfl, rfl, rfl⟩
      · rw [Function.update_of_ne hurl] at hst
        obtain ⟨r, hr, hsrc, hfac⟩ := h url cache hst
        refine ⟨r, mem_cons_of_mem _ hr, ?_, hfac⟩
        rw [Function.update_of_ne hurl, hsrc]
  · have hold : b.storage.cache url = some cache := by
      simpa only [receive, onResponse, if_neg hget] using hmem
    obtain ⟨r, hr, hsrc, hfac⟩ := h url cache hold
    refine ⟨r, mem_cons_of_mem _ hr, ?_, hfac⟩
    have hnot : ¬(sent.config.method = .get ∧ sent.config.cache ∧ room) :=
      fun hall => hget ⟨hall.1, hall.2.1⟩
    simp only [receive, if_neg hnot, hsrc]

theorem sourced_step (h : Sourced json b) (e : Event U P D) : Sourced json (step json b e) := by
  cases e with
  | login role user =>
    refine h.of_entries (fun url cache hmem => ?_) ?_ ?_
    · rwa [step, login_entries] at hmem
    · cases role <;> rfl
    · cases role <;> rfl
  | adminLoginPage user | refreshed user => exact h.of_entries (fun _ _ => id) rfl rfl
  | logout c =>
    refine h.of_entries (fun url cache hmem => ?_) ?_ ?_
    · rw [step, logout_entries] at hmem
      cases hmem
    · cases c <;> rfl
    · cases c <;> rfl
  | handleLogout | reload | send config => exact h.of_entries (fun _ _ => id) rfl rfl
  | respond i data room now =>
    rw [step]
    split
    · exact sourced_receive (h.of_entries (fun _ _ => id) rfl rfl) _ data room now
    · exact h
  | networkError i now | refuse i => exact h.of_entries (fun _ _ => id) rfl rfl

theorem sourced_start : Sourced json (start : Browser U P D) := by
  intro url cache hmem
  cases hmem

theorem responses_step (b : Browser U P D) (e : Event U P D) :
    b.responses <:+ (step json b e).responses := by
  cases e with
  | login role user => cases role <;> exact suffix_rfl
  | logout c => cases c <;> exact suffix_rfl
  | respond =>
    rw [step]
    split
    · exact suffix_cons _ _
    · exact suffix_rfl
  | adminLoginPage _ | refreshed _ | handleLogout | reload | send _ | networkError _ _
  | refuse => exact suffix_rfl

theorem responses_final (b : Browser U P D) (ev : List (Event U P D)) :
    b.responses <:+ (final (step json) b ev).responses := by
  induction ev generalizing b with
  | nil => exact suffix_rfl
  | cons e es ih => exact (responses_step b e).trans (ih (step json b e))

/-! ## Answers -/

variable {e : Event U P D}

theorem answer_entry {sent : Sent U P} {data : D} (h : answer b e = some (sent, data)) :
    ∃ cache, b.storage.cache sent.config.url = some cache ∧ e.now < cache.expires
      ∧ cache.data = data := by
  cases e with
  | networkError =>
    simp only [answer] at h
    split at h
    · rename_i w _
      obtain ⟨kept, hk, hp⟩ := Option.map_eq_some_iff.mp h
      obtain ⟨rfl, rfl⟩ := Prod.mk.inj hp
      unfold onNetworkError at hk
      split at hk
      · split at hk
        · rename_i cache hcac
          obtain ⟨hlt, hda⟩ := Option.ite_none_right_eq_some.mp hk
          exact ⟨cache, hcac, hlt, Option.some.inj hda⟩
        · cases hk
      · cases hk
    · cases h
  | login _ _ | adminLoginPage _ | refreshed _ | logout _ | handleLogout | reload | send _
  | respond _ _ _ _ | refuse _ => cases h

theorem answer_source (h : Sourced json b) {sent : Sent U P} {data : D}
    (ha : answer b e = some (sent, data)) :
    ∃ r ∈ b.responses, b.sources sent.config.url = some r ∧ r.url = sent.config.url
      ∧ json r.data = data ∧ e.now < r.time + lifetime := by
  obtain ⟨cache, hcac, hlt, hda⟩ := answer_entry ha
  obtain ⟨r, hr, hsrc, hurl, hk, hex⟩ := h _ cache hcac
  exact ⟨r, hr, hsrc, hurl, hk ▸ hda, hex ▸ hlt⟩

theorem own_of_no_answer (h : answer b e = none) : Own json b e := by
  intro sent data ha
  rw [h] at ha
  cases ha

theorem answered_of_own (h : Sourced json b) (hown : Own json b e) : Answered b e := by
  intro sent data ha
  obtain ⟨r, hr, hsrc, hurl, hda, hlt⟩ := answer_source h ha
  obtain ⟨r', hsrc', hpa, hu, hjs⟩ := hown sent data ha
  obtain rfl : r = r' := Option.mem_unique hsrc hsrc'
  exact ⟨r, hr, hurl, hpa, hu, hjs.symm.trans hda, hlt.le⟩

theorem own_of_answered (h : Sourced json b) (hapa : Apart json b.responses)
    (han : Answered b e) : Own json b e := by
  intro sent data ha
  obtain ⟨r, hr, hsrc, -, hda, -⟩ := answer_source h ha
  obtain ⟨r', hr', -, hpa, hu, hda', -⟩ := han sent data ha
  have hs : json r.data = r'.data := hda.trans hda'.symm
  obtain rfl : r = r' := hapa r hr r' hr' hs
  exact ⟨r, hsrc, hpa, hu, hs⟩

theorem every_own_of_answered (h : Sourced json b) {events : List (Event U P D)}
    (hapa : Apart json (final (step json) b events).responses)
    (han : Every (step json) Answered b events) : Every (step json) (Own json) b events := by
  induction events generalizing b with
  | nil => trivial
  | cons e es ih =>
    obtain ⟨he, hes⟩ := han
    have hsub : b.responses ⊆ (final (step json) b (e :: es)).responses :=
      (responses_final b (e :: es)).subset
    have hnow : Apart json b.responses := fun r hr r' hr' => hapa r (hsub hr) r' (hsub hr')
    exact ⟨own_of_answered h hnow he, ih (sourced_step h e) hapa hes⟩

end

/-! ## Whose data is shown -/

/-- Where every answer finds its own user's response last, each is right; and where the data tell
the responses apart, only there. -/
theorem cached_answers {U P D : Type} (json : D → D) (events : List (Event U P D)) :
    (Every (step json) (Own json) start events → Every (step json) Answered start events)
      ∧ (Apart json (final (step json) (start : Browser U P D) events).responses →
        Every (step json) Answered start events → Every (step json) (Own json) start events) :=
  ⟨every_imp_under (I := Sourced json) (fun _ e h => sourced_step h e)
    (fun _ _ h hown => answered_of_own h hown) sourced_start,
    every_own_of_answered sourced_start⟩

def takenOver : List (Event String (List (String × String)) String) :=
  [.login .member "ada",
   .send ⟨.get, "/members/profile", [], true⟩,
   .respond 0 "profile of ada" true 1000,
   .handleLogout,
   .reload,
   .login .member "bob",
   .send ⟨.get, "/members/profile", [], true⟩,
   .networkError 0 61000]

theorem cached_answer_of_another :
    answer (final (step id) start (takenOver.take 7)) (.networkError 0 61000)
        = some (⟨⟨.get, "/members/profile", [], true⟩, some "bob"⟩, "profile of ada")
      ∧ ¬Every (step id) Answered start takenOver := by
  refine ⟨rfl, fun h => ?_⟩
  obtain ⟨-, -, -, -, -, -, -, hans, -⟩ := h
  obtain ⟨r, hr, -, -, hu, -⟩ := hans _ _ rfl
  obtain rfl := mem_singleton.mp hr
  exact absurd hu (by decide)

theorem cached_answers_after_logout :
    Every (step id) Answered start
      ([.login .member "ada", .send ⟨.get, "/members/profile", (), true⟩,
        .respond 0 "profile of ada" true 1000, .logout true, .login .member "bob",
        .send ⟨.get, "/members/profile", (), true⟩, .respond 0 "profile of bob" true 2000,
        .send ⟨.get, "/members/profile", (), true⟩, .networkError 0 61000] :
        List (Event String Unit String)) := by
  refine (cached_answers id _).1 ⟨own_of_no_answer rfl, own_of_no_answer rfl,
    own_of_no_answer rfl, own_of_no_answer rfl, own_of_no_answer rfl, own_of_no_answer rfl,
    own_of_no_answer rfl, own_of_no_answer rfl, ?_, trivial⟩
  intro sent data h
  cases h
  exact ⟨_, rfl, rfl, rfl, rfl⟩

end SexySelfies.ApiCache
