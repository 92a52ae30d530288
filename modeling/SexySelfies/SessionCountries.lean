import SexySelfies.Collection
import SexySelfies.SessionModel

/-!
# Sessions that travel

What `validateSession` should do with requests from changing addresses: accept each of them, and
keep one entry in `suspiciousActivity` and 15 points of risk, up to 100, for each change of country.
But a change of country makes `flagSuspiciousActivity` append an object to a list of strings: the
save rejects, and the request is refused.
-/

namespace SexySelfies.Sessions

open Interleave List

/-! ## Requests of a session -/

structure Login where
  sessionId : String
  user : Nat
  userType : UserType
  deviceType : DeviceType
  origin : Origin
  now : Nat
  expirationHours : Nat

def Login.session (env : Env) (l : Login) : Session :=
  createSession env l.sessionId l.user l.userType l.deviceType l.origin l.now l.expirationHours

structure Visit (expiresAt : Nat) where
  origin : Origin
  now : Nat
  unexpired : now < expiresAt

def countryOf (env : Env) (ip : String) : String :=
  orDefault ((env.geoip ip).bind Geo.country) "Unknown"

/-- The store, the country of the last request, and the number of requests so
far that came from another country than the one before. -/
structure Watched where
  db : Db
  country : String
  changes : Nat

def Answer.isValid : Answer → Bool
  | .valid _ _ _ _ _ _ => true
  | _ => false

variable (env : Env) (others : Db) (l : Login)

def Watched.start : Watched where
  db := others ++ [l.session env]
  country := countryOf env (getClientIp l.origin)
  changes := 0

def validate (db : Db) (v : Visit (l.session env).expiresAt) : Db × Answer :=
  (validateSession env l.sessionId l.user v.origin v.now).run exec db

variable (w : Watched)

def Watched.visit (v : Visit (l.session env).expiresAt) : Watched where
  db := (validate env l w.db v).1
  country := countryOf env (getClientIp v.origin)
  changes := if countryOf env (getClientIp v.origin) = w.country then w.changes else w.changes + 1

/-- Every change of country is on record. -/
def Watched.Recorded : Prop :=
  ∃ s, w.db[others.length]? = some s ∧ s.suspiciousActivity.length = w.changes ∧
    s.riskScore = min 100 (15 * w.changes)

def Accounted (v : Visit (l.session env).expiresAt) : Prop :=
  (validate env l w.db v).2.isValid = true ∧ (w.visit env l v).Recorded others

/-! ## One request -/

section

variable {env : Env} {others : Db} {s : Session}

theorem find_last {user now : Option Nat} (hf : ∀ t ∈ others, t.sessionId ≠ s.sessionId)
    (hs : s.matches s.sessionId user now) :
    (exec (.find s.sessionId user now) (others ++ [s])).2 = some (others.length, s) := by
  have hn : others.findIdx? (fun t => t.matches s.sessionId user now) = none := by
    rw [findIdx?_eq_none_iff]
    intro t ht
    simp only [Session.matches, decide_eq_false (hf t ht), Bool.false_and]
  have hidx : (others ++ [s]).findIdx? (fun t => t.matches s.sessionId user now) =
      some others.length := by
    rw [findIdx?_append, hn]
    simp [findIdx?_cons, hs]
  simp only [exec, hidx, Option.bind_some, getElem?_concat_length, Option.map_some]

variable {ch : Changes}

theorem save_last (h : ch.valid) :
    exec (.save others.length ch) (others ++ [s]) = (others ++ [s.write ch], true) := by
  simp [exec, h, Collection.modify_concat_length]

theorem save_invalid {db : Db} {id : Nat} (h : ch.valid = false) :
    exec (.save id ch) db = (db, false) := by simp [exec, h]

theorem valid_flagSuspiciousActivity (session : Session) (location : Location)
    (now : Nat) : (flagSuspiciousActivity session ch location now).valid = false := by
  simp [flagSuspiciousActivity, Changes.valid, Suspicion.cast]

theorem run_validateSession {origin : Origin} {now : Nat}
    (hf : ∀ t ∈ others, t.sessionId ≠ s.sessionId)
    (hs : s.matches s.sessionId (some s.user) (some now)) :
    (validateSession env s.sessionId s.user origin now).run exec (others ++ [s]) =
      match ipChanged env s origin now with
      | (ch, none) =>
        (refresh s.sessionId others.length s ch s.riskScore now).run exec (others ++ [s])
      | (_, some _) => (others ++ [s], .invalid s.sessionId "validation_error") := by
  simp only [validateSession, findSession, perform_bind, run_call, find_last hf hs]
  change Proc.run exec _ (others ++ [s]) = _
  generalize ipChanged env s origin now = x
  obtain ⟨ch, location⟩ := x
  cases location with
  | none => rfl
  | some location =>
    simp only [save, perform_bind, run_call,
      save_invalid (valid_flagSuspiciousActivity s location now)]
    rfl

theorem run_refresh {riskScore now : Nat} (h : ch.valid) :
    (refresh s.sessionId others.length s ch riskScore now).run exec (others ++ [s]) =
      (others ++ [s.write { ch with lastActiveAt := modified s.lastActiveAt now }],
        .valid s.sessionId others.length s.userType s.deviceType now riskScore) := by
  have hch : ({ ch with lastActiveAt := modified s.lastActiveAt now } : Changes).valid := h
  simp only [refresh, save, perform_bind, run_call, save_last hch]
  rfl

end

/-! ## The stored session -/

section

variable {env : Env} {others : Db} {l : Login}

/-- The session as the requests so far have left it: active, nothing flagged, and
still in the country of the login. -/
structure Clean (env : Env) (l : Login) (s : Session) : Prop where
  sessionId : s.sessionId = l.sessionId
  user : s.user = l.user
  isActive : s.isActive = true
  expiresAt : s.expiresAt = (l.session env).expiresAt
  country : s.location.country = some (countryOf env (getClientIp l.origin))
  address : countryOf env s.location.ipAddress = countryOf env (getClientIp l.origin)
  suspiciousActivity : s.suspiciousActivity = []
  riskScore : s.riskScore = 0

variable {s : Session}

theorem Clean.matches (h : Clean env l s) (v : Visit (l.session env).expiresAt) :
    s.matches s.sessionId (some s.user) (some v.now) := by
  have hnow : v.now < s.expiresAt := by
    rw [h.expiresAt]
    exact v.unexpired
  simp only [Session.matches, h.isActive, Option.all_some, decide_true, decide_eq_true hnow,
    Bool.and_self]

theorem ipChanged_same (h : Clean env l s) {origin : Origin} (now : Nat)
    (hc : countryOf env (getClientIp origin) = countryOf env (getClientIp l.origin)) :
    ∃ ch, ipChanged env s origin now = (ch, none) ∧ ch.valid ∧
      ∀ t, Clean env l (s.write { ch with lastActiveAt := t }) := by
  have hctry : (extractLocationInfo env origin).country = s.location.country := by
    rw [h.country, ← hc]
    rfl
  by_cases hip : s.location.ipAddress = getClientIp origin
  · refine ⟨{}, ?_, rfl, fun t => ?_⟩
    · simp only [ipChanged, if_pos hip]
    · exact ⟨h.sessionId, h.user, h.isActive, h.expiresAt, h.country, h.address,
        (append_nil _).trans h.suspiciousActivity, h.riskScore⟩
  · have hch : ipChanged env s origin now = (
        { ipChanges := [⟨s.location.ipAddress, getClientIp origin, now,
            shouldFlagIpChange env s.location.ipAddress (getClientIp origin)⟩]
          ipAddress := some (getClientIp origin) }, none) := by
      simp only [ipChanged, if_neg hip, if_pos hctry]
    refine ⟨_, hch, rfl, fun t => ?_⟩
    exact ⟨h.sessionId, h.user, h.isActive, h.expiresAt, h.country, hc,
      (append_nil _).trans h.suspiciousActivity, h.riskScore⟩

theorem ipChanged_other (h : Clean env l s) {origin : Origin} (now : Nat)
    (hc : countryOf env (getClientIp origin) ≠ countryOf env (getClientIp l.origin)) :
    ∃ ch location, ipChanged env s origin now = (ch, some location) := by
  have hip : s.location.ipAddress ≠ getClientIp origin := fun heq => hc (heq ▸ h.address)
  have hctry : (extractLocationInfo env origin).country ≠ s.location.country := by
    rw [h.country]
    exact fun heq => hc (Option.some.inj heq)
  refine ⟨(ipChanged env s origin now).1, extractLocationInfo env origin, ?_⟩
  simp only [ipChanged, if_neg hip, if_neg hctry]

theorem validate_eq (hf : ∀ t ∈ others, t.sessionId ≠ l.sessionId) (h : Clean env l s)
    (v : Visit (l.session env).expiresAt) : validate env l (others ++ [s]) v =
      match ipChanged env s v.origin v.now with
      | (ch, none) =>
        (refresh s.sessionId others.length s ch s.riskScore v.now).run exec (others ++ [s])
      | (_, some _) => (others ++ [s], .invalid s.sessionId "validation_error") := by
  rw [validate, ← h.sessionId, ← h.user]
  refine run_validateSession (fun t ht => ?_) (h.matches v)
  rw [h.sessionId]
  exact hf t ht

variable {v : Visit (l.session env).expiresAt}

theorem validate_same (hf : ∀ t ∈ others, t.sessionId ≠ l.sessionId) (h : Clean env l s)
    (hc : countryOf env (getClientIp v.origin) = countryOf env (getClientIp l.origin)) :
    ∃ s', Clean env l s' ∧ (validate env l (others ++ [s]) v).1 = others ++ [s'] ∧
      (validate env l (others ++ [s]) v).2.isValid := by
  obtain ⟨ch, hch, hv, hcle⟩ := ipChanged_same h v.now hc
  have hrun := validate_eq hf h v
  rw [hch] at hrun
  have hrefr := hrun.trans (run_refresh hv)
  rw [hrefr]
  exact ⟨_, hcle _, rfl, rfl⟩

theorem validate_other (hf : ∀ t ∈ others, t.sessionId ≠ l.sessionId) (h : Clean env l s)
    (hc : countryOf env (getClientIp v.origin) ≠ countryOf env (getClientIp l.origin)) :
    (validate env l (others ++ [s]) v).2.isValid = false := by
  obtain ⟨ch, location, hch⟩ := ipChanged_other h v.now hc
  have hrun := validate_eq hf h v
  rw [hch] at hrun
  rw [hrun]
  rfl

/-! ## Sequences of requests -/

structure Watched.Home (env : Env) (others : Db) (l : Login) (w : Watched) : Prop where
  stored : ∃ s, Clean env l s ∧ w.db = others ++ [s]
  country : w.country = countryOf env (getClientIp l.origin)
  changes : w.changes = 0

theorem home_start : (Watched.start env others l).Home env others l :=
  ⟨⟨_, by constructor <;> rfl, rfl⟩, rfl, rfl⟩

variable {w : Watched}

theorem Watched.Home.visit (hf : ∀ t ∈ others, t.sessionId ≠ l.sessionId) (h : w.Home env others l)
    (hc : countryOf env (getClientIp v.origin) = countryOf env (getClientIp l.origin)) :
    (w.visit env l v).Home env others l := by
  obtain ⟨s, hs, hdb⟩ := h.stored
  obtain ⟨s', hs', hrun, -⟩ := validate_same hf hs hc
  refine ⟨⟨s', hs', ?_⟩, hc, ?_⟩
  · rwa [Watched.visit, hdb]
  · rw [Watched.visit, if_pos (hc.trans h.country.symm)]
    exact h.changes

theorem Watched.Home.recorded (h : w.Home env others l) : w.Recorded others := by
  obtain ⟨s, hs, hdb⟩ := h.stored
  refine ⟨s, ?_, ?_, ?_⟩
  · rw [hdb]
    exact getElem?_concat_length
  · rw [hs.suspiciousActivity, h.changes]
    rfl
  · rw [hs.riskScore, h.changes]
    rfl

theorem accounted_iff (hf : ∀ t ∈ others, t.sessionId ≠ l.sessionId) (h : w.Home env others l) :
    Accounted env others l w v ↔
      countryOf env (getClientIp v.origin) = countryOf env (getClientIp l.origin) := by
  obtain ⟨s, hs, hdb⟩ := h.stored
  constructor
  · rintro ⟨hv, -⟩
    by_contra hc
    rw [hdb, validate_other hf hs hc] at hv
    cases hv
  · intro hc
    obtain ⟨s', -, -, hv⟩ := validate_same hf hs hc
    refine ⟨?_, (h.visit hf hc).recorded⟩
    rwa [hdb]

/-- The requests made with a new session before it expires are accepted, with every change of
country recorded, exactly when none comes from another country than the login. -/
theorem visits_accounted_iff (env : Env) (others : Db) (l : Login)
    (hfresh : ∀ t ∈ others, t.sessionId ≠ l.sessionId)
    (visits : List (Visit (l.session env).expiresAt)) :
    Runs.Every (Watched.visit env l) (Accounted env others l) (.start env others l) visits ↔
      ∀ v ∈ visits,
        countryOf env (getClientIp v.origin) = countryOf env (getClientIp l.origin) := by
  have hall : Runs.Every (Watched.visit env l)
      (fun _ v => countryOf env (getClientIp v.origin) = countryOf env (getClientIp l.origin))
      (.start env others l) visits ↔ ∀ v ∈ visits,
          countryOf env (getClientIp v.origin) = countryOf env (getClientIp l.origin) :=
    Runs.every_iff_forall
  refine Iff.trans ?_ hall
  refine Runs.every_iff_within (I := Watched.Home env others l) (fun w v hw hv => ?_)
    (fun w v hw => accounted_iff hfresh hw) home_start
  exact hw.visit hfresh ((accounted_iff hfresh hw).mp hv)

end

def twoCountries : Env where
  geoip := fun ip => some ⟨some (if ip = "192.0.2.9" then "FR" else "US"), none, none⟩
  text := fun _ => ""

def Login.sample : Login := ⟨"s", 1, .member, .mobile, .of "10.0.0.1", 0, 168⟩

def Visit.sample (ip : String) : Visit (Login.sample.session twoCountries).expiresAt :=
  ⟨.of ip, 1000, by decide⟩

theorem visits_accounted_roaming :
    Runs.Every (Watched.visit twoCountries .sample) (Accounted twoCountries [] .sample)
      (.start twoCountries [] .sample) [.sample "10.0.0.2", .sample "10.0.0.1"] := by
  refine (visits_accounted_iff twoCountries [] .sample (fun _ h => absurd h not_mem_nil)
    _).mpr fun v hv => ?_
  rcases mem_cons.mp hv with rfl | hv
  · decide
  · obtain rfl := mem_singleton.mp hv
    decide

theorem traveller_refused :
    let w := Watched.start twoCountries [] .sample
    let v := Visit.sample "192.0.2.9"
    ¬Runs.Every (Watched.visit twoCountries .sample) (Accounted twoCountries [] .sample) w [v] ∧
      (validate twoCountries .sample w.db v).2 = .invalid "s" "validation_error" ∧
      (w.visit twoCountries .sample v).changes = 1 ∧
      (w.visit twoCountries .sample v).db.map (fun s => (s.suspiciousActivity, s.riskScore)) =
        [([], 0)] := by
  intro w v
  have href : (validate twoCountries .sample w.db v).2 = .invalid "s" "validation_error" := by
    decide +kernel
  refine ⟨fun h => ?_, href, by decide +kernel, by decide +kernel⟩
  have hv := h.1.1
  rw [href] at hv
  cases hv

end SexySelfies.Sessions
