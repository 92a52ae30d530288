import SexySelfies.SessionLookup

/-!
# Tokens after logging out

The middlewares of `auth.middleware.js` that let a request pass by its token, and the handlers that
issue tokens and end sessions: `login`, `logout` and `updatePassword` of `auth.controller.js`, and
`endSession` of `session.controller.js`.

`logout` only replaces a cookie, and of the four middlewares one looks at the session. `user.status`
is not declared in `models/User.js`, so the checks for suspended and banned users never apply.
-/

namespace SexySelfies.Auth

open Js Platform Interleave Sessions List

structure Claims where
  id : Nat
  role : UserType
  sessionId : String
deriving DecidableEq

structure User where
  email : String
  password : String
  role : UserType
  isActive : Bool

/-- `verify` accepts a token of ours until `lifetime` seconds after the second
it was signed in. -/
structure Env (τ : Type) where
  session : Sessions.Env
  find : Value → List User → Option Nat
  compare : Value → String → Bool
  lifetime : Nat
  sign : Claims → Nat → τ
  verify : τ → Nat → Option Claims
  verify_sign : ∀ c t now, verify (sign c t) now =
    if now / 1000 < t / 1000 + lifetime then some c else none

structure Issued where
  claims : Claims
  time : Nat
deriving DecidableEq

structure World where
  users : List User
  creators : List Nat
  members : List Nat
  sessions : Sessions.Db
  issued : List Issued
  loggedOut : List String
  ended : List String

/-! ## Middlewares -/

/-- The header `authorization`: one that starts with `Bearer`, with the part
after the first space, or another one. -/
inductive Header (τ : Type) where
  | bearer (token : Option τ)
  | other

structure Request (τ : Type) where
  authorization : Header τ
  cookie : Option τ
  origin : Origin
  now : Nat

def Request.token {τ : Type} (r : Request τ) : Option τ :=
  match r.authorization with
  | .bearer token => token
  | .other => r.cookie

inductive Verdict where
  | refused (status : Nat) (error : String)
  | next (user : Nat) (claims : Claims)

def Verdict.passes : Verdict → Bool
  | .refused _ _ => false
  | .next _ _ => true

inductive Middleware where
  | protect
  | protectWithSession
  | authenticateCreator
  | authenticateMember

variable {τ : Type} (env : Env τ)

/-- What all four begin with: the token is there, is verified, and names a
user. -/
def identify (noToken invalid : String) (r : Request τ) (w : World)
    (next : Claims → User → World × Verdict) : World × Verdict :=
  match r.token with
  | none => (w, .refused 401 noToken)
  | some token =>
    match env.verify token r.now with
    | none => (w, .refused 401 invalid)
    | some decoded =>
      match w.users[decoded.id]? with
      | none => (w, .refused 401 "User not found")
      | some user => next decoded user

def protect (r : Request τ) (w : World) : World × Verdict :=
  identify env "Not authorized to access this route" "Not authorized to access this route" r w
    fun decoded _ => (w, .next decoded.id decoded)

/-- Tokens without a session are let through. -/
def protectWithSession (r : Request τ) (w : World) : World × Verdict :=
  identify env "Not authorized to access this route" "Not authorized to access this route" r w
    fun decoded _ =>
      if decoded.sessionId ≠ "" then
        let (sessions, validation) :=
          (validateSession env.session decoded.sessionId decoded.id r.origin r.now).run exec
            w.sessions
        ({ w with sessions },
          if validation.isValid then .next decoded.id decoded
          else .refused 401 "Session expired. Please log in again.")
      else (w, .next decoded.id decoded)

def authenticateRole (role : UserType) (denied : String) (profiles : World → List Nat)
    (r : Request τ) (w : World) : World × Verdict :=
  identify env "Not authorized - no token" "Token invalid or expired" r w fun decoded user =>
    if user.role ≠ role then (w, .refused 403 denied)
    else if decoded.id ∈ profiles w then (w, .next decoded.id decoded)
    else (w, .refused 401 "Token invalid or expired")

def authenticateCreator : Request τ → World → World × Verdict :=
  authenticateRole env .creator "Access denied - creators only" World.creators

def authenticateMember : Request τ → World → World × Verdict :=
  authenticateRole env .member "Access denied - members only" World.members

def check (m : Middleware) (r : Request τ) (w : World) : World × Verdict :=
  match m with
  | .protect => protect env r w
  | .protectWithSession => protectWithSession env r w
  | .authenticateCreator => authenticateCreator env r w
  | .authenticateMember => authenticateMember env r w

/-! ## Handlers -/

structure NewSession where
  sessionId : String
  userAgent : String
  deviceType : DeviceType
  origin : Origin
  now : Nat

/-- `saved` and `profileSaved` say whether the saves of the user and of a new
creator profile are accepted. -/
structure LoginRequest where
  email : Value
  password : Value
  session : NewSession
  saved : Bool
  profileSaved : Bool

/-- The hash that is stored, unless the new password is refused. -/
structure PasswordChange where
  currentPassword : Value
  stored : Option String
  session : NewSession

variable (user : Nat)

/-- `sendTokenResponse`. A session without an id or a user agent is refused by
the schema, and one with an id that exists by the index. -/
def sendTokenResponse (role : UserType) (n : NewSession) (w : World) :
    World × Response τ :=
  if n.userAgent = "" ∨ n.sessionId = "" ∨ n.sessionId ∈ w.sessions.map Session.sessionId then
    (w, .failure 500 "Token generation failed. Please try again.")
  else
    ({ w with
       sessions := w.sessions ++ [createSession env.session n.sessionId user role n.deviceType
         n.origin n.now 168]
       issued := ⟨⟨user, role, n.sessionId⟩, n.now⟩ :: w.issued },
      .success 200 "" (some (env.sign ⟨user, role, n.sessionId⟩ n.now)))

def ensureProfile (role : UserType) (saved : Bool) (w : World) : Option World :=
  if role = .creator ∧ user ∉ w.creators then
    if saved then some { w with creators := user :: w.creators } else none
  else some w

def login (r : LoginRequest) (w : World) : World × Response τ :=
  if !(r.email.truthy && r.password.truthy) then
    (w, .failure 400 "Please provide an email and password")
  else match env.find r.email w.users with
    | none => (w, .failure 401 "Invalid credentials")
    | some id =>
      match w.users[id]? with
      | none => (w, .failure 401 "Invalid credentials")
      | some user =>
        if !env.compare r.password user.password then
          (w, .failure 401 "Invalid credentials")
        else if !user.isActive then
          (w, .failure 401 "Account is deactivated. Please contact support.")
        else if !r.saved then (w, .failure 500 "User validation failed")
        else match ensureProfile id user.role r.profileSaved w with
          | none => (w, .failure 500 "Creator validation failed")
          | some w => sendTokenResponse env id user.role r.session w

def updatePassword (id : Nat) (c : PasswordChange) (w : World) : World × Response τ :=
  match w.users[id]? with
  | none => (w, .failure 500 "Cannot read properties of null (reading 'matchPassword')")
  | some user =>
    if !env.compare c.currentPassword user.password then
      (w, .failure 401 "Password is incorrect")
    else match c.stored with
      | none => (w, .failure 500 "User validation failed")
      | some password =>
        sendTokenResponse env id user.role c.session
          { w with users := w.users.set id { user with password } }

def World.owns (w : World) (user : Nat) (sessionId : String) (now : Nat) : Bool :=
  w.sessions.any fun s =>
    s.user = user && s.isActive && now < s.expiresAt && s.sessionId = sessionId

def endUserSession (sessionId : String) (now : Nat) (w : World) : World × Response τ :=
  if w.owns user sessionId now then
    match (endSession env.session sessionId "manual" now).run exec w.sessions with
    | (sessions, .done true) =>
      ({ w with sessions, ended := sessionId :: w.ended },
        .success 200 "Session ended successfully" none)
    | (sessions, _) => ({ w with sessions }, .failure 400 "Failed to end session")
  else (w, .failure 403 "Session not found or not owned by user")

inductive Event (τ : Type) where
  | login (r : LoginRequest)
  | logout (r : Request τ)
  | endSession (r : Request τ) (sessionId : String)
  | updatePassword (r : Request τ) (c : PasswordChange)
  | visit (m : Middleware) (r : Request τ)

def guarded (m : Middleware) (r : Request τ) (f : Nat → Claims → World → World) (w : World) :
    World :=
  match check env m r w with
  | (w, .refused _ _) => w
  | (w, .next user claims) => f user claims w

def step (w : World) : Event τ → World
  | .login r => (login env r w).1
  | .logout r =>
    guarded env .protect r (fun _ claims w =>
      { w with loggedOut := claims.sessionId :: w.loggedOut }) w
  | .endSession r sessionId =>
    guarded env .protectWithSession r
      (fun user _ w => (endUserSession env user sessionId r.now w).1) w
  | .updatePassword r c =>
    guarded env .protect r (fun user _ w => (updatePassword env user c w).1) w
  | .visit m r => (check env m r w).1

/-! ## What holds of every world -/

/-- The users of the tokens exist, session ids are distinct, and the sessions
that were ended have ended. -/
structure Sound (w : World) : Prop where
  issued : ∀ t ∈ w.issued, t.claims.id < w.users.length ∧ t.claims.sessionId ≠ ""
  distinct : (w.sessions.map Session.sessionId).Nodup
  ended : ∀ sessionId ∈ w.ended, sessionId ∈ w.sessions.map Session.sessionId
    ∧ Ended sessionId w.sessions

section

variable {env : Env τ} {w : World}

theorem Sound.run (h : Sound w) {p : Handler} (hp : NeverActivates p) :
    Sound { w with sessions := (p.run exec w.sessions).1 } := by
  refine ⟨h.issued, ?_, fun s hmem => ?_⟩
  · rw [sessionIds_run hp]
    exact h.distinct
  · obtain ⟨hst, hend⟩ := h.ended s hmem
    refine ⟨?_, ended_run hp hend⟩
    rwa [sessionIds_run hp]

theorem Sound.sendTokenResponse (h : Sound w) {user : Nat} (hu : user < w.users.length)
    (role : UserType) (n : NewSession) : Sound (sendTokenResponse env user role n w).1 := by
  unfold Auth.sendTokenResponse
  split
  · exact h
  · rename_i hnew
    obtain ⟨-, hid, hf⟩ : n.userAgent ≠ "" ∧ n.sessionId ≠ ""
        ∧ n.sessionId ∉ w.sessions.map Session.sessionId := by simpa only [not_or] using hnew
    have hids : (w.sessions ++ [createSession env.session n.sessionId user role n.deviceType
        n.origin n.now 168]).map Session.sessionId
          = w.sessions.map Session.sessionId ++ [n.sessionId] := by
      rw [map_append]
      rfl
    refine ⟨fun t ht => ?_, ?_, fun sessionId hmem => ?_⟩
    · rcases mem_cons.mp ht with rfl | ht
      · exact ⟨hu, hid⟩
      · exact h.issued t ht
    · rw [hids]
      refine nodup_append.mpr ⟨h.distinct, nodup_singleton _, ?_⟩
      intro a ha b hb hab
      exact hf ((mem_singleton.mp hb) ▸ hab ▸ ha)
    · obtain ⟨hst, hend⟩ := h.ended sessionId hmem
      rw [hids]
      refine ⟨mem_append_left _ hst, fun s hs hsid => ?_⟩
      rcases mem_append.mp hs with hs | hs
      · exact hend s hs hsid
      · obtain rfl := mem_singleton.mp hs
        obtain rfl : n.sessionId = sessionId := hsid
        exact absurd hst hf

theorem Sound.ensureProfile (h : Sound w) {user : Nat} {role : UserType} {saved : Bool}
    {w' : World} (hw : ensureProfile user role saved w = some w') :
    Sound w' ∧ w'.users = w.users := by
  unfold Auth.ensureProfile at hw
  split at hw
  · split at hw
    · cases hw
      exact ⟨⟨h.issued, h.distinct, h.ended⟩, rfl⟩
    · cases hw
  · cases hw
    exact ⟨h, rfl⟩

theorem sound_login (h : Sound w) (r : LoginRequest) : Sound (login env r w).1 := by
  unfold login
  split
  · exact h
  · split
    · exact h
    · rename_i id _
      split
      · exact h
      · rename_i user hu
        have hlt : id < w.users.length := (List.getElem?_eq_some_iff.mp hu).1
        split
        · exact h
        · split
          · exact h
          · split
            · exact h
            · split
              · exact h
              · rename_i w' hpr
                obtain ⟨hw', huse⟩ := h.ensureProfile hpr
                exact hw'.sendTokenResponse (huse ▸ hlt) _ _

theorem sound_updatePassword (h : Sound w) (id : Nat) (c : PasswordChange) :
    Sound (updatePassword env id c w).1 := by
  unfold updatePassword
  split
  · exact h
  · rename_i user hu
    split
    · exact h
    · split
      · exact h
      · rename_i password _
        have hw : Sound { w with users := w.users.set id { user with password } } :=
          ⟨by rw [length_set]; exact h.issued, h.distinct, h.ended⟩
        refine hw.sendTokenResponse ?_ _ _
        rw [length_set]
        exact (List.getElem?_eq_some_iff.mp hu).1

theorem sound_endUserSession (h : Sound w) (user : Nat) (sessionId : String) (now : Nat) :
    Sound (endUserSession env user sessionId now w).1 := by
  unfold endUserSession
  split
  · rename_i how
    have hnev : NeverActivates (endSession env.session sessionId "manual" now) :=
      neverActivates_endSession "manual" now
    have hrun := h.run hnev
    split
    · rename_i sessions heq
      rw [heq] at hrun
      have hend : Ended sessionId sessions := by
        have hdo := ended_endSession h.distinct
          (congrArg Prod.snd heq : ((endSession env.session sessionId "manual" now).run exec
            w.sessions).2 = .done true)
        rwa [heq] at hdo
      refine ⟨hrun.issued, hrun.distinct, fun id hid => ?_⟩
      rcases mem_cons.mp hid with rfl | hid
      · refine ⟨?_, hend⟩
        obtain ⟨s, hs, hte⟩ := any_eq_true.mp how
        simp only [Bool.and_eq_true, decide_eq_true_eq] at hte
        have hids : ((endSession env.session id "manual" now).run exec w.sessions).1.map
            Session.sessionId = w.sessions.map Session.sessionId := sessionIds_run hnev
        rw [heq] at hids
        exact hids ▸ mem_map.mpr ⟨s, hs, hte.2⟩
      · exact hrun.ended id hid
    · rename_i sessions answer _ heq
      rwa [heq] at hrun
  · exact h

variable {r : Request τ}

theorem identify_fst (n invalid : String) (next : Claims → User → World × Verdict) :
    (identify env n invalid r w next).1 = w
      ∨ ∃ decoded user, (identify env n invalid r w next).1 = (next decoded user).1 := by
  unfold identify
  split
  · exact .inl rfl
  · split
    · exact .inl rfl
    · split
      · exact .inl rfl
      · exact .inr ⟨_, _, rfl⟩

theorem authenticateRole_fst (role : UserType) (d : String) (p : World → List Nat) :
    (authenticateRole env role d p r w).1 = w := by
  rcases identify_fst _ _ _ with heq | ⟨_, _, heq⟩
  · exact heq
  · refine heq.trans ?_
    split
    · rfl
    · split <;> rfl

variable {m : Middleware}

theorem check_fst : (check env m r w).1 = w ∨ ∃ p, NeverActivates p ∧ (check env m r w).1
        = { w with sessions := (p.run exec w.sessions).1 } := by
  cases m with
  | protect =>
    rcases identify_fst _ _ _ with heq | ⟨_, _, heq⟩
    · exact .inl heq
    · exact .inl heq
  | protectWithSession =>
    rcases identify_fst _ _ _ with heq | ⟨decoded, user, heq⟩
    · exact .inl heq
    · dsimp only at heq
      split at heq
      · exact .inr ⟨_, neverActivates_validateSession _, heq⟩
      · exact .inl heq
  | authenticateCreator | authenticateMember => exact .inl (authenticateRole_fst _ _ _)

theorem sound_check (env : Env τ) (h : Sound w) (m : Middleware) (r : Request τ) :
    Sound (check env m r w).1 := by
  rcases check_fst with heq | ⟨p, hp, heq⟩
  · rwa [heq]
  · rw [heq]
    exact h.run hp

theorem sound_guarded (h : Sound w)
    {f : Nat → Claims → World → World} (hf : ∀ user c w, Sound w → Sound (f user c w)) :
    Sound (guarded env m r f w) := by
  have hche := sound_check env h m r
  unfold guarded
  split
  · rename_i heq
    rwa [heq] at hche
  · rename_i heq
    rw [heq] at hche
    exact hf _ _ _ hche

theorem sound_step (h : Sound w) (e : Event τ) : Sound (step env w e) := by
  cases e with
  | login r => exact sound_login h r
  | logout => exact sound_guarded h fun _ _ _ hw => ⟨hw.issued, hw.distinct, hw.ended⟩
  | endSession r s => exact sound_guarded h fun user _ _ hw => sound_endUserSession hw user s r.now
  | updatePassword r c => exact sound_guarded h fun user _ _ hw => sound_updatePassword hw user c
  | visit m r => exact sound_check env h m r

end

/-- Expiry is checked in whole seconds. -/
def Env.Unexpired (env : Env τ) (t : Issued) (now : Nat) : Prop :=
  now / 1000 < t.time / 1000 + env.lifetime

def World.hasProfile (w : World) (user : Nat) (role : UserType) (profiles : List Nat) : Prop :=
  w.users[user]?.map User.role = some role ∧ user ∈ profiles

/-- What shuts a middleware to a token that has not expired. -/
def Shut (env : Env τ) (w : World) (t : Issued) (r : Request τ) : Middleware → Prop
  | .protect => False
  | .protectWithSession =>
    t.claims.sessionId ∈ w.ended
      ∨ ¬ Live env.session w.sessions t.claims.sessionId t.claims.id r.origin r.now
  | .authenticateCreator => ¬ w.hasProfile t.claims.id .creator w.creators
  | .authenticateMember => ¬ w.hasProfile t.claims.id .member w.members

variable {r : Request τ} {t : Issued}

theorem identify_issued {env : Env τ} {w : World} (ht : t.claims.id < w.users.length)
    (hr : r.token = some (env.sign t.claims t.time)) (n invalid : String)
    (next : Claims → User → World × Verdict) : (¬ env.Unexpired t r.now
        ∧ identify env n invalid r w next = (w, .refused 401 invalid))
      ∨ (env.Unexpired t r.now ∧ ∃ user, w.users[t.claims.id]? = some user
        ∧ identify env n invalid r w next = next t.claims user) := by
  unfold identify Env.Unexpired
  simp only [hr, env.verify_sign]
  by_cases hexp : r.now / 1000 < t.time / 1000 + env.lifetime
  · refine .inr ⟨hexp, _, getElem?_eq_getElem ht, ?_⟩
    simp only [if_pos hexp, getElem?_eq_getElem ht]
  · refine .inl ⟨hexp, ?_⟩
    simp only [if_neg hexp]

theorem refused_authenticateRole {env : Env τ} {w : World} (ht : t.claims.id < w.users.length)
    (hr : r.token = some (env.sign t.claims t.time)) {role : UserType} {d : String}
    {p : World → List Nat} : (authenticateRole env role d p r w).2.passes = false ↔
      ¬ env.Unexpired t r.now ∨ ¬ w.hasProfile t.claims.id role (p w) := by
  rcases identify_issued ht hr _ _ _ with ⟨hexp, heq⟩ | ⟨hune, user, hu, heq⟩
  · rw [authenticateRole, heq]
    exact iff_of_true rfl (.inl hexp)
  · rw [authenticateRole, heq, or_iff_right (not_not.mpr hune), World.hasProfile, hu,
      Option.map_some, Option.some.injEq]
    by_cases hrl : user.role = role
    · by_cases hpr : t.claims.id ∈ p w
      · simp [hrl, hpr, Verdict.passes]
      · simp [hrl, hpr, Verdict.passes]
    · simp [hrl, Verdict.passes]

theorem refused_iff {env : Env τ} {w : World} (h : Sound w) (ht : t ∈ w.issued) (m : Middleware)
    (hr : r.token = some (env.sign t.claims t.time)) :
    (check env m r w).2.passes = false ↔ ¬ env.Unexpired t r.now ∨ Shut env w t r m := by
  obtain ⟨hlt, hse⟩ := h.issued t ht
  cases m with
  | protect =>
    rcases identify_issued hlt hr _ _ _ with ⟨hexp, heq⟩ | ⟨hune, user, hu, heq⟩
    · rw [check, protect, heq]
      exact iff_of_true rfl (.inl hexp)
    · rw [check, protect, heq]
      exact iff_of_false (fun hpa => by cases hpa) (not_or.mpr ⟨not_not.mpr hune, id⟩)
  | protectWithSession =>
    rcases identify_issued hlt hr _ _ _ with ⟨hexp, heq⟩ | ⟨hune, user, hu, heq⟩
    · rw [check, protectWithSession, heq]
      exact iff_of_true rfl (.inl hexp)
    · rw [check, protectWithSession, heq, or_iff_right (not_not.mpr hune)]
      dsimp only
      rw [if_pos hse, Shut, ← isValid_validateSession h.distinct]
      have hend : t.claims.sessionId ∈ w.ended →
          ¬ ((validateSession env.session t.claims.sessionId t.claims.id r.origin r.now).run exec
            w.sessions).2.isValid := by
        intro hmem hv
        rw [isValid_validateSession h.distinct] at hv
        exact not_live_of_ended (h.ended _ hmem).2 _ hv
      rw [or_iff_right_of_imp hend]
      cases ((validateSession env.session t.claims.sessionId t.claims.id r.origin r.now).run exec
        w.sessions).2.isValid with
      | true => exact iff_of_false (fun hpa => by cases hpa) (not_not.mpr rfl)
      | false => exact iff_of_true rfl Bool.false_ne_true
  | authenticateCreator | authenticateMember => exact refused_authenticateRole hlt hr

def World.start (users : List User) (creators members : List Nat) : World :=
  ⟨users, creators, members, [], [], [], []⟩

/-- A request that carries an issued token is refused exactly when the token has
expired or the middleware is shut for it: a logout only counts where `Shut` says so. -/
theorem logged_out_refused_iff (env : Env τ) (users : List User) (creators members : List Nat)
    (events : List (Event τ)) (t : Issued)
    (ht : t ∈ (Runs.final (step env) (World.start users creators members) events).issued)
    (m : Middleware) (r : Request τ) (hr : r.token = some (env.sign t.claims t.time)) :
    (check env m r (Runs.final (step env) (World.start users creators members) events)).2.passes
        = false ↔
      ¬ env.Unexpired t r.now
        ∨ Shut env (Runs.final (step env) (World.start users creators members) events) t r m := by
  have hst : Sound (World.start users creators members) := ⟨nofun, nodup_nil, nofun⟩
  have hs : Runs.Always (step env) Sound (World.start users creators members) events :=
    Runs.always_of_step (fun _ e h => sound_step h e) hst
  exact refused_iff hs.last ht m hr

/-! ## Sample events -/

def sampleEnv : Env (Claims × Nat) where
  session := ⟨fun _ => none, fun _ => ""⟩
  find _ _ := some 0
  compare _ _ := true
  lifetime := 604800
  sign c t := (c, t)
  verify token now := if now / 1000 < token.2 / 1000 + 604800 then some token.1 else none
  verify_sign _ _ _ := rfl

def sampleUsers : List User := [⟨"m@example.com", "hash", .member, true⟩]

def sampleToken : Issued := ⟨⟨0, .member, "s"⟩, 0⟩

def carrying (now : Nat) : Request (Claims × Nat) :=
  ⟨.bearer (some (sampleToken.claims, sampleToken.time)), none, .of "10.0.0.1", now⟩

def loggedIn : Event (Claims × Nat) :=
  .login ⟨.str "m@example.com", .str "secret", ⟨"s", "Mozilla", .mobile, .of "10.0.0.1", 0⟩,
    true, true⟩

theorem ended_session_refused :
    (check sampleEnv .protectWithSession (carrying 3000) (Runs.final (step sampleEnv)
      (World.start sampleUsers [] [0]) [loggedIn, .endSession (carrying 1000) "s"])).2.passes
        = false :=
  (logged_out_refused_iff sampleEnv sampleUsers [] [0]
    [loggedIn, .endSession (carrying 1000) "s"] sampleToken (by decide +kernel)
    .protectWithSession (carrying 3000) rfl).mpr
      (.inr (.inl (by decide +kernel)))

/-- After logging out, and even after ending the session, the token still opens the other
middlewares. -/
theorem logged_out_passes :
    [Middleware.protect, .protectWithSession, .authenticateMember].map (fun m =>
        (check sampleEnv m (carrying 3000) (Runs.final (step sampleEnv)
          (World.start sampleUsers [] [0]) [loggedIn, .logout (carrying 1000)])).2.passes)
        = [true, true, true]
      ∧ (Runs.final (step sampleEnv) (World.start sampleUsers [] [0])
          [loggedIn, .logout (carrying 1000)]).loggedOut = ["s"]
      ∧ [Middleware.protect, .authenticateMember].map (fun m =>
        (check sampleEnv m (carrying 3000) (Runs.final (step sampleEnv)
          (World.start sampleUsers [] [0])
          [loggedIn, .endSession (carrying 1000) "s"])).2.passes) = [true, true]
      ∧ (Runs.final (step sampleEnv) (World.start sampleUsers [] [0])
          [loggedIn, .endSession (carrying 1000) "s"]).ended = ["s"] := by
  decide +kernel

end SexySelfies.Auth
