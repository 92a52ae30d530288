import Mathlib.Tactic.Common
import SexySelfies.Collection
import SexySelfies.JsValue
import SexySelfies.Runs

/-!
# One refresh for many expired requests

When the backend answers 401, the response interceptor of `api.config.js` refreshes the tokens and
sends the request again. The first request to fail sets `isRefreshing`; those that fail meanwhile
wait in `failedQueue`. A request that fails while no refresh token is stored raises the flag, and
returns before the `try` whose `finally` would lower it. A later 401 then waits for a refresh that
nobody makes.

Each handler runs up to its `await` in one step.
-/

namespace SexySelfies.TokenRefresh

open Js Collection Runs List

/-! ## The client -/

inductive Promise where
  | server
  | refresh
  | settled (fulfilled : Bool)
deriving DecidableEq

structure Request where
  url : String
  retry : Bool
  promise : Promise
deriving DecidableEq

/-- The entries of `localStorage` that the interceptor reads or writes. -/
structure Storage where
  token : Option String
  refreshToken : Option String
  userRole : Option String
deriving DecidableEq

structure Client where
  storage : Storage
  isRefreshing : Bool
  failedQueue : List Nat
  refreshes : List Nat
  requests : List Request
deriving DecidableEq

def isLoginEndpoint (url : String) : Bool :=
  includes url.toList "/auth/".toList &&
    (includes url.toList "/login".toList || includes url.toList "/register".toList)

def Storage.isAdminUser (s : Storage) : Bool := s.userRole = some "admin"

def Storage.usable (s : Storage) : Option String := s.refreshToken.filter (· ≠ "")

variable (c : Client)

def handleLogout : Client :=
  { c with storage := ⟨none, none, none⟩ }

variable (i : Nat)

def put (promise : Promise) (requests : List Request) : List Request :=
  requests.modify i fun r => { r with promise }

/-- `processQueue`: with an error the queued requests are rejected, and else
sent again. -/
def processQueue (error : Bool) (c : Client) : Client :=
  { c with
    requests := c.failedQueue.foldl
      (fun requests i => put i (if error then .settled false else .server) requests) c.requests
    failedQueue := [] }

def unauthorized (r : Request) (c : Client) : Client :=
  if !r.retry && !isLoginEndpoint r.url && !c.storage.isAdminUser then
    if c.isRefreshing then
      { c with failedQueue := c.failedQueue ++ [i], requests := put i .refresh c.requests }
    else
      let c := { c with
        requests := c.requests.modify i fun r => { r with retry := true }
        isRefreshing := true }
      match c.storage.usable with
      | none =>
        let c := handleLogout c
        { c with requests := put i (.settled false) c.requests }
      | some _ =>
        { c with refreshes := c.refreshes ++ [i], requests := put i .refresh c.requests }
  else { c with requests := put i (.settled false) c.requests }

/-- How a refresh call ends. An answer without tokens, or one that cannot be
stored, is handled as a failure. -/
inductive Outcome where
  | tokens (token : String) (refreshToken : Option String)
  | failed

/-- The rest of the handler of request `i`, after its refresh. -/
def refreshed (outcome : Outcome) (c : Client) : Client :=
  match outcome with
  | .tokens token newRefreshToken =>
    let c := { c with storage := { c.storage with
      token := some token
      refreshToken := newRefreshToken.filter (· ≠ "") <|> c.storage.refreshToken } }
    let c := processQueue false c
    { c with requests := put i .server c.requests, isRefreshing := false }
  | .failed =>
    let c := handleLogout (processQueue true c)
    { c with requests := put i (.settled false) c.requests, isRefreshing := false }

/-- `finish` is any end of a request but a 401, and `store` what other code
does to the storage. -/
inductive Event where
  | request (url : String)
  | unauthorized (i : Nat)
  | finish (i : Nat) (fulfilled : Bool)
  | refreshed (k : Nat) (outcome : Outcome)
  | store (storage : Storage)
  | reload

def Client.sent : Option Request :=
  c.requests[i]?.filter (·.promise = .server)

def step : Event → Client
  | .request url => { c with requests := c.requests ++ [⟨url, false, .server⟩] }
  | .unauthorized i =>
    match c.sent i with
    | some r => unauthorized i r c
    | none => c
  | .finish i fulfilled =>
    match c.sent i with
    | some _ => { c with requests := put i (.settled fulfilled) c.requests }
    | none => c
  | .refreshed k outcome =>
    match c.refreshes[k]? with
    | some i => refreshed i outcome { c with refreshes := c.refreshes.eraseIdx k }
    | none => c
  | .store storage => { c with storage }
  | .reload => ⟨c.storage, false, [], [], []⟩

def start (storage : Storage) : Client := ⟨storage, false, [], [], []⟩

/-! ## Waiting requests -/

/-- The request waits for the refresh. -/
def Waits (requests : List Request) (i : Nat) : Prop :=
  ∃ r, requests[i]? = some r ∧ r.promise = .refresh

variable {i j : Nat} {promise : Promise} {requests : List Request}

theorem waits_put (h : Waits (put i promise requests) j) :
    (j = i ∧ promise = .refresh) ∨ (j ≠ i ∧ Waits requests j) := by
  obtain ⟨r, hr, hw⟩ := h
  by_cases hij : i = j
  · subst hij
    rw [put, getElem?_modify_eq] at hr
    obtain ⟨r', -, rfl⟩ := Option.map_eq_some_iff.mp hr
    exact .inl ⟨rfl, hw⟩
  · rw [put, getElem?_modify_ne _ _ hij] at hr
    exact .inr ⟨Ne.symm hij, r, hr, hw⟩

theorem waits_put_other (hp : promise ≠ .refresh) (h : Waits (put i promise requests) j) :
    j ≠ i ∧ Waits requests j := (waits_put h).resolve_left fun hi => hp hi.2

theorem waits_retry (h : Waits (requests.modify i fun r => { r with retry := true }) j) :
    Waits requests j := by
  obtain ⟨r, hr, hw⟩ := h
  by_cases hij : i = j
  · subst hij
    rw [getElem?_modify_eq] at hr
    obtain ⟨r', hr', rfl⟩ := Option.map_eq_some_iff.mp hr
    exact ⟨r', hr', hw⟩
  · rw [getElem?_modify_ne _ _ hij] at hr
    exact ⟨r, hr, hw⟩

theorem waits_foldl (hp : promise ≠ .refresh) (queue : List Nat) : ∀ {requests : List Request},
      Waits (queue.foldl (fun requests i => put i promise requests) requests) j →
        j ∉ queue ∧ Waits requests j := by
  induction queue with
  | nil => exact fun h => ⟨not_mem_nil, h⟩
  | cons i queue ih =>
    intro requests h
    obtain ⟨hq, hput⟩ := ih h
    obtain ⟨hne, hw⟩ := waits_put_other hp hput
    exact ⟨fun hmem => (mem_cons.mp hmem).elim hne hq, hw⟩

theorem waits_processQueue {error : Bool} {c : Client}
    (h : Waits (processQueue error c).requests j) : j ∉ c.failedQueue ∧ Waits c.requests j := by
  refine waits_foldl ?_ c.failedQueue h
  cases error <;> exact Promise.noConfusion

/-- At most one refresh is in flight, with the flag up, and every request that
waits for one is known. -/
structure Sound (c : Client) : Prop where
  one : c.refreshes.length ≤ 1
  flag : c.refreshes ≠ [] → c.isRefreshing = true
  known : ∀ i, Waits c.requests i → i ∈ c.failedQueue ∨ i ∈ c.refreshes

/-- Without a refresh in flight the flag is down and nobody waits. -/
structure Quiet (c : Client) : Prop where
  one : c.refreshes.length ≤ 1
  flag : c.refreshes = [] → c.isRefreshing = false ∧ c.failedQueue = []
  settled : c.refreshes = [] → ∀ i, ¬Waits c.requests i

/-- Whenever a 401 starts a refresh there is a token to ask for one with. -/
def Armed : Event → Prop
  | .unauthorized i =>
    ∀ r, c.sent i = some r → r.retry = false → isLoginEndpoint r.url = false →
      c.storage.isAdminUser = false → c.isRefreshing = false → c.storage.usable ≠ none
  | _ => True

/-! ## One step -/

variable {c : Client}

theorem Sound.refreshes_eq (h : Sound c) (hfl : c.isRefreshing = false) : c.refreshes = [] := by
  by_contra hne
  exact absurd (h.flag hne) (hfl ▸ Bool.false_ne_true)

theorem Sound.eraseIdx (h : Sound c) {k : Nat} (hk : c.refreshes[k]? = some i) :
    c.refreshes = [i] ∧ c.refreshes.eraseIdx k = [] := by
  cases hl : c.refreshes with
  | nil =>
    rw [hl] at hk
    cases hk
  | cons j rest =>
    have hr : rest = [] := by
      have hone := h.one
      rw [hl] at hone
      exact length_eq_zero_iff.mp (Nat.le_zero.mp (Nat.le_of_succ_le_succ hone))
    subst hr
    rw [hl] at hk
    cases k with
    | zero => exact ⟨by rw [Option.some.inj hk], rfl⟩
    | succ => cases hk

variable {c' : Client}

theorem Sound.of_requests (h : Sound c) (hfl : c'.isRefreshing = c.isRefreshing)
    (hq : c'.failedQueue = c.failedQueue) (hre : c'.refreshes = c.refreshes)
    (hw : ∀ i, Waits c'.requests i → Waits c.requests i) : Sound c' := by
  refine ⟨hre ▸ h.one, ?_, fun i hi => ?_⟩
  · rw [hre, hfl]
    exact h.flag
  · rw [hq, hre]
    exact h.known i (hw i hi)

variable {r : Request}

theorem sound_unauthorized (h : Sound c) : Sound (unauthorized i r c) := by
  unfold unauthorized
  split
  · split
    · rename_i hfl
      refine ⟨h.one, fun _ => hfl, fun j hj => ?_⟩
      rcases waits_put hj with ⟨rfl, -⟩ | ⟨-, hj⟩
      · exact .inl (mem_append_right _ mem_cons_self)
      · exact (h.known j hj).imp_left (mem_append_left _)
    · rename_i hfl
      have hn : c.refreshes = [] := h.refreshes_eq (Bool.eq_false_iff.mpr hfl)
      dsimp only
      split
      · refine ⟨h.one, fun _ => rfl, fun j hj => ?_⟩
        obtain ⟨-, hj⟩ := waits_put_other Promise.noConfusion hj
        exact h.known j (waits_retry hj)
      · refine ⟨?_, fun _ => rfl, fun j hj => ?_⟩
        · simp [hn]
        · rcases waits_put hj with ⟨rfl, -⟩ | ⟨-, hj⟩
          · exact .inr (mem_append_right _ mem_cons_self)
          · exact (h.known j (waits_retry hj)).imp_right (mem_append_left _)
  · exact h.of_requests rfl rfl rfl fun j hj => (waits_put_other Promise.noConfusion hj).2

theorem refreshed_quiet (h : Sound c) {k : Nat} (hk : c.refreshes[k]? = some i) (outcome : Outcome)
    (hc' : c' = refreshed i outcome { c with refreshes := c.refreshes.eraseIdx k }) :
    c'.refreshes = [] ∧ c'.isRefreshing = false ∧ c'.failedQueue = []
      ∧ ∀ j, ¬Waits c'.requests j := by
  obtain ⟨hone, hn⟩ := h.eraseIdx hk
  have hnob : ∀ {error : Bool} {promise : Promise}, promise ≠ .refresh →
      ∀ j, ¬Waits (put i promise (processQueue error c).requests) j := by
    intro error promise hp j hj
    obtain ⟨hne, hj⟩ := waits_put_other hp hj
    obtain ⟨hq, hj⟩ := waits_processQueue hj
    rcases h.known j hj with hmem | hmem
    · exact hq hmem
    · rw [hone] at hmem
      exact hne (mem_singleton.mp hmem)
  subst hc'
  cases outcome with
  | tokens token n | failed => exact ⟨hn, rfl, rfl, hnob Promise.noConfusion⟩

theorem waits_request {url : String} (h : Waits (requests ++ [⟨url, false, .server⟩]) j) :
    Waits requests j := by
  obtain ⟨r, hr, hw⟩ := h
  rcases getElem?_concat_cases hr with hr | ⟨-, rfl⟩
  · exact ⟨r, hr, hw⟩
  · cases hw

theorem sound_step (h : Sound c) (e : Event) : Sound (step c e) := by
  cases e with
  | request => exact h.of_requests rfl rfl rfl fun _ => waits_request
  | unauthorized =>
    rw [step]
    split
    · exact sound_unauthorized h
    · exact h
  | finish =>
    rw [step]
    split
    · exact h.of_requests rfl rfl rfl fun _ hj => (waits_put_other Promise.noConfusion hj).2
    · exact h
  | refreshed k outcome =>
    rw [step]
    split
    · rename_i i hk
      obtain ⟨hn, -, -, hnob⟩ := refreshed_quiet h hk outcome rfl
      exact ⟨by simp [hn], fun hne => absurd hn hne, fun j hj => absurd hj (hnob j)⟩
    · exact h
  | store => exact h.of_requests rfl rfl rfl fun _ => id
  | reload =>
    refine ⟨Nat.zero_le _, fun hne => absurd rfl hne, fun j hj => ?_⟩
    obtain ⟨r, hr, -⟩ := hj
    cases hr

/-! ## When nobody is left waiting -/

theorem quiet_iff (h : Sound c) :
    Quiet c ↔ (c.refreshes = [] → c.isRefreshing = false ∧ c.failedQueue = []) := by
  refine ⟨Quiet.flag, fun hfl => ⟨h.one, hfl, fun hn i hi => ?_⟩⟩
  have hq := (hfl hn).2
  rcases h.known i hi with hmem | hmem
  · rw [hq] at hmem
    exact absurd hmem not_mem_nil
  · rw [hn] at hmem
    exact absurd hmem not_mem_nil

theorem quiet_of_same (hs : Sound c) (hq : Quiet c) (hs' : Sound c')
    (hfl : c'.isRefreshing = c.isRefreshing) (hqu : c'.failedQueue = c.failedQueue)
    (hre : c'.refreshes = c.refreshes) : Quiet c' := by
  rw [quiet_iff hs', hfl, hqu, hre]
  exact (quiet_iff hs).mp hq

theorem quiet_unauthorized (hs : Sound c) (hq : Quiet c) :
    Quiet (unauthorized i r c) ↔ (r.retry = false → isLoginEndpoint r.url = false →
      c.storage.isAdminUser = false → c.isRefreshing = false → c.storage.usable ≠ none) := by
  rw [quiet_iff (sound_unauthorized hs)]
  unfold unauthorized
  split
  · rename_i hgua
    simp only [Bool.and_eq_true, Bool.not_eq_true'] at hgua
    obtain ⟨⟨hret, hurl⟩, ha⟩ := hgua
    split
    · rename_i hfl
      refine ⟨fun _ _ _ _ hdo => absurd (hdo.symm.trans hfl) Bool.false_ne_true, fun _ hn => ?_⟩
      exact absurd ((hq.flag hn).1.symm.trans hfl) Bool.false_ne_true
    · rename_i hfl
      have hdo : c.isRefreshing = false := Bool.eq_false_iff.mpr hfl
      dsimp only
      split
      · rename_i hun
        refine ⟨fun hqu => ?_, fun hall => absurd hun (hall hret hurl ha hdo)⟩
        exact absurd (hqu (hs.refreshes_eq hdo)).1 Bool.true_eq_false_eq_False
      · rename_i token hus
        refine ⟨fun _ _ _ _ _ hn => ?_, fun _ hn => ?_⟩
        · exact absurd (hus.symm.trans hn) (Option.some_ne_none token)
        · exact absurd hn (append_ne_nil_of_right_ne_nil _ (cons_ne_nil i []))
  · rename_i hgua
    refine ⟨fun _ hret hurl ha => ?_, fun _ => hq.flag⟩
    exact absurd (by simp [hret, hurl, ha]) hgua

theorem quiet_step (hs : Sound c) (hq : Quiet c) (e : Event) : Quiet (step c e) ↔ Armed c e := by
  cases e with
  | request url =>
    exact iff_of_true (quiet_of_same hs hq (sound_step hs (.request url)) rfl rfl rfl) trivial
  | unauthorized =>
    rw [step, Armed]
    split
    · rename_i r hr
      rw [quiet_unauthorized hs hq]
      refine ⟨fun h r' hr' => ?_, fun h => h r hr⟩
      obtain rfl := Option.mem_unique hr hr'
      exact h
    · rename_i hn
      refine iff_of_true hq fun r hr => ?_
      exact absurd (hr.symm.trans hn) (Option.some_ne_none r)
  | finish i fulfilled =>
    refine iff_of_true ?_ trivial
    have hs' := sound_step hs (.finish i fulfilled)
    rw [step] at hs' ⊢
    split at hs'
    · exact quiet_of_same hs hq hs' rfl rfl rfl
    · exact hq
  | refreshed k outcome =>
    refine iff_of_true ?_ trivial
    rw [step]
    split
    · rename_i i hk
      obtain ⟨hn, hfl, hqu, hnob⟩ := refreshed_quiet hs hk outcome rfl
      exact ⟨by simp [hn], fun _ => ⟨hfl, hqu⟩, fun _ => hnob⟩
    · exact hq
  | store s =>
    exact iff_of_true (quiet_of_same hs hq (sound_step hs (.store s)) rfl rfl rfl) trivial
  | reload =>
    refine iff_of_true ((quiet_iff (sound_step hs .reload)).mpr fun _ => ?_) trivial
    exact ⟨rfl, rfl⟩

theorem sound_start (s : Storage) : Sound (start s) := by
  refine ⟨Nat.zero_le _, fun hne => absurd rfl hne, fun j hj => ?_⟩
  obtain ⟨r, hr, -⟩ := hj
  cases hr

/-- At no time does a request wait, or is the flag up, without a refresh in
flight, exactly if every 401 that starts a refresh finds a refresh token. -/
theorem never_stuck_iff (storage : Storage) (events : List Event) :
    Always step Quiet (start storage) events ↔ Every step Armed (start storage) events :=
  always_iff_every_within (fun _ e hs => sound_step hs e) (fun _ e hs hq => quiet_step hs hq e)
    (sound_start storage) ((quiet_iff (sound_start storage)).mpr fun _ => ⟨rfl, rfl⟩)

theorem never_stuck_with_token :
    Always step Quiet (start ⟨some "t", some "r", some "member"⟩)
      [.request "/members/profile", .request "/wallet", .unauthorized 0, .unauthorized 1,
       .refreshed 0 (.tokens "t2" (some "r2"))] := by
  refine (never_stuck_iff _ _).mpr ⟨trivial, trivial, ?_, ?_, trivial, trivial⟩
  · intro r _ _ _ _ _
    exact Option.some_ne_none "r"
  · intro r _ _ _ _ hdown
    exact absurd hdown (by decide +kernel)

theorem stuck_without_token :
    let c := final step (start ⟨some "t", none, some "member"⟩)
      [.request "/members/profile", .request "/wallet", .unauthorized 0, .unauthorized 1]
    (c.refreshes = [] ∧ c.isRefreshing = true ∧ c.failedQueue = [1] ∧ Waits c.requests 1)
      ∧ ¬Always step Quiet (start ⟨some "t", none, some "member"⟩)
        [.request "/members/profile", .request "/wallet", .unauthorized 0, .unauthorized 1] := by
  have hc : final step (start ⟨some "t", none, some "member"⟩)
      [.request "/members/profile", .request "/wallet", .unauthorized 0, .unauthorized 1]
        = ⟨⟨none, none, none⟩, true, [1], [], [⟨"/members/profile", true, .settled false⟩,
          ⟨"/wallet", false, .refresh⟩]⟩ := by decide +kernel
  rw [hc]
  refine ⟨⟨rfl, rfl, rfl, _, rfl, rfl⟩, fun h => ?_⟩
  have hl := h.last
  rw [hc] at hl
  exact absurd (hl.flag rfl).1 (by decide)

end SexySelfies.TokenRefresh
