import SexySelfies.Runs
import SexySelfies.ModerationModel

/-!
# Suspended and banned users at the door

The middlewares of `auth.middleware.js`, and what becomes of a request of a user whose record says
that the user is suspended or banned. Two of them look at `user.status`. The handlers that suspend
and ban assign it, but the path is not declared, so it is never stored.
-/

namespace SexySelfies.Moderation

open Js Platform

structure Decoded where
  id : Nat
  sessionId : Option String

structure Env where
  verify : String → ℤ → Option Decoded

structure SessionValidation where
  valid : Bool
  requiresReauth : Bool

/-- A request; a `session` of `none` is a validation that throws. -/
structure AuthRequest where
  now : ℤ
  authorization : Option String
  cookie : Option String
  session : Option SessionValidation
  creatorCreated : Bool

variable (r : AuthRequest)

/-- `authorization.split(' ')[1]` of a header that starts with `Bearer`, or
else the cookie; an empty text is no token. -/
def AuthRequest.token : Option String :=
  let token :=
    match r.authorization.filter fun h => "Bearer".toList.isPrefixOf h.toList with
    | some h => (h.toList.splitOn ' ')[1]?.map String.ofList
    | none => r.cookie
  token.filter (· ≠ "")

variable (env : Env) (r : AuthRequest)

def AuthRequest.decoded : Option Decoded :=
  r.token.bind fun token => env.verify token r.now

inductive Answer where
  | next
  | refused (status : Nat) (error : String)

/-! ## The middlewares -/

inductive Middleware where
  | protect | protectWithSession | authenticateCreator

/-- The part the three have in common: the token, its verification and the
user, with the texts of the middleware. -/
def authenticate (noToken invalid : String) (r : AuthRequest) (db : Db)
    (continue_ : Decoded → User → Db × Answer) : Db × Answer :=
  match r.token with
  | none => (db, .refused 401 noToken)
  | some token =>
    match env.verify token r.now with
    | none => (db, .refused 401 invalid)
    | some decoded =>
      match db.users[decoded.id]? with
      | none => (db, .refused 401 "User not found")
      | some user => continue_ decoded user

def User.isBlocked (u : User) : Bool :=
  (u.get "status").same (.str "suspended") || (u.get "status").same (.str "banned")

def User.blockedAnswer (u : User) : Answer :=
  if (u.get "status").same (.str "suspended") then .refused 403 "Account suspended"
  else .refused 403 "Account banned"

def notAuthorized : String := "Not authorized to access this route"

variable (db : Db)

def protect : Db × Answer :=
  authenticate env notAuthorized notAuthorized r db fun _ user =>
    if user.isBlocked then (db, user.blockedAnswer) else (db, .next)

def protectWithSession : Db × Answer :=
  authenticate env notAuthorized notAuthorized r db fun decoded user =>
    if user.isBlocked then (db, user.blockedAnswer)
    else
      match decoded.sessionId.filter (· ≠ "") with
      | none => (db, .next)
      | some _ =>
        match r.session with
        | none => (db, .refused 401 notAuthorized)
        | some validation =>
          if !validation.valid && validation.requiresReauth then
            (db, .refused 401 "Session expired. Please log in again.")
          else (db, .next)

def authenticateCreator : Db × Answer :=
  authenticate env "Not authorized - no token" "Token invalid or expired" r db fun decoded user =>
    if user.role ≠ .creator then (db, .refused 403 "Access denied - creators only")
    else if decoded.id ∈ db.creators then (db, .next)
    else if r.creatorCreated then ({ db with creators := decoded.id :: db.creators }, .next)
    else (db, .refused 401 "Token invalid or expired")

def Middleware.run : Middleware → Db × Answer
  | .protect => Moderation.protect env r db
  | .protectWithSession => Moderation.protectWithSession env r db
  | .authenticateCreator => Moderation.authenticateCreator env r db

def AuthRequest.expired (decoded : Decoded) : Bool :=
  (decoded.sessionId.filter (· ≠ "")).isSome
    && r.session.all fun validation => !validation.valid && validation.requiresReauth

/-- A request with a valid token is stopped. The record of the user plays no
part in it. -/
def Middleware.stops (decoded : Decoded) (db : Db) : Middleware → Bool
  | .protect => (db.users[decoded.id]?).isNone
  | .protectWithSession => (db.users[decoded.id]?).isNone || r.expired decoded
  | .authenticateCreator =>
    (db.users[decoded.id]?).all fun user =>
      user.role ≠ .creator || !(decoded.id ∈ db.creators || r.creatorCreated)

theorem not_isBlocked (u : User) : u.isBlocked = false := by
  have hst : u.get "status" = .undefined := get_of_not_declared (by decide) u
  rw [User.isBlocked, hst]
  rfl

theorem authenticate_eq {env : Env} {n invalid : String} {r : AuthRequest} {db : Db}
    {c_ : Decoded → User → Db × Answer} {decoded : Decoded}
    (h : r.decoded env = some decoded) : authenticate env n invalid r db c_ =
      match db.users[decoded.id]? with
      | none => (db, .refused 401 "User not found")
      | some user => c_ decoded user := by
  obtain ⟨token, htok, hve⟩ := Option.bind_eq_some_iff.mp h
  simp only [authenticate, htok, hve]

theorem next_iff {env : Env} {r : AuthRequest} {decoded : Decoded}
    (h : r.decoded env = some decoded) (db : Db) (m : Middleware) :
    (m.run env r db).2 = .next ↔ m.stops r decoded db = false := by
  cases m with
  | protect =>
    rw [Middleware.run, protect, authenticate_eq h, Middleware.stops]
    cases db.users[decoded.id]? with
    | none => simp
    | some =>
      dsimp only
      rw [not_isBlocked, if_neg Bool.false_ne_true]
      exact iff_of_true rfl rfl
  | protectWithSession =>
    rw [Middleware.run, protectWithSession, authenticate_eq h, Middleware.stops]
    cases db.users[decoded.id]? with
    | none => simp
    | some =>
      dsimp only
      rw [not_isBlocked, if_neg Bool.false_ne_true, AuthRequest.expired]
      cases decoded.sessionId.filter (· ≠ "") with
      | none => exact iff_of_true rfl rfl
      | some =>
        cases r.session with
        | none => simp
        | some v =>
          cases href : (!v.valid && v.requiresReauth) with
          | true | false => simp [href]
  | authenticateCreator =>
    rw [Middleware.run, authenticateCreator, authenticate_eq h, Middleware.stops]
    cases db.users[decoded.id]? with
    | none => simp
    | some user =>
      by_cases hr : user.role = .creator
      · by_cases hcr : decoded.id ∈ db.creators
        · simp [hr, hcr]
        · cases hcrd : r.creatorCreated with
          | true | false => simp [hr, hcr]
      · simp [hr]

/-! ## Admin calls and requests -/

def Db.bars (user : Nat) (now : ℤ) : Bool :=
  (db.violations user).any fun r =>
    r.doc.currentStatus = .banned
      || r.doc.currentStatus = .suspended && r.doc.suspendedUntil.any fun until_ => now < until_

inductive Event where
  | suspendUser (c : Context) (userId : Ref) (duration reason freeze : Value)
  | banUser (c : Context) (userId : Ref) (reason deleteContent : Value)
  | liftSuspension (c : Context) (userId : Ref) (reason : Value)
  | request (m : Middleware) (r : AuthRequest)

variable (numeral : Number → String)

def step (env : Env) (db : Db) : Event → Db
  | .suspendUser c userId duration reason freeze =>
    (Moderation.suspendUser numeral c userId duration reason freeze db).1
  | .banUser c userId reason deleteContent =>
    (Moderation.banUser numeral c userId reason deleteContent db).1
  | .liftSuspension c userId reason => (Moderation.liftSuspension numeral c userId reason db).1
  | .request m r => (m.run env r db).1

variable (user : Nat)

/-- A request with a valid token of a user whose record bars the user does not
get through. -/
def Barred (db : Db) : Event → Prop
  | .request m r =>
    ∀ decoded ∈ r.decoded env, decoded.id = user → db.bars user r.now = true →
      (m.run env r db).2 ≠ .next
  | _ => True

/-- Whoever is barred is stopped for another reason. -/
def StoppedAnyway (db : Db) : Event → Prop
  | .request m r =>
    ∀ decoded ∈ r.decoded env, decoded.id = user → db.bars user r.now = true →
      m.stops r decoded db = true
  | _ => True

theorem barred_iff_stoppedAnyway (db : Db) (e : Event) :
    Barred env user db e ↔ StoppedAnyway env user db e := by
  cases e with
  | request m r =>
    refine forall₂_congr fun decoded hde => forall₂_congr fun _ _ => ?_
    rw [Ne, next_iff hde db m, Bool.not_eq_false]
  | suspendUser c u d reason f | banUser c u reason deleteContent
  | liftSuspension => rfl

/-- In every sequence of admin calls and requests, barred users are kept out
exactly when their requests are stopped on other grounds. -/
theorem barred_users_kept_out_iff (numeral : Number → String) (env : Env) (user : Nat) (db : Db)
    (events : List Event) :
    Runs.Every (step numeral env) (Barred env user) db events ↔
      Runs.Every (step numeral env) (StoppedAnyway env user) db events :=
  Runs.every_congr (barred_iff_stoppedAnyway env user)

def memberDb : Db := ⟨[⟨.member, [], fun _ h => by cases h⟩], fun _ => none, [], []⟩

def oneToken : Env := ⟨fun token _ => if token = "T" then some ⟨0, none⟩ else none⟩

def banThenRequest : List Event :=
  [.banUser ⟨0, .id 0, true, [], true, true⟩ (.id 0) (.str "Fraud") (.bool false),
   .request .protect ⟨1, some "Bearer T", none, none, false⟩]

theorem banned_user_gets_through :
    (Runs.states (step Number.toFixed2 oneToken) memberDb banThenRequest).map (·.bars 0 1)
        = [false, true, true]
      ∧ ¬ Runs.Every (step Number.toFixed2 oneToken) (Barred oneToken 0) memberDb
        banThenRequest := by
  refine ⟨by decide +kernel, fun h => ?_⟩
  have href := h.2.1 ⟨0, none⟩ rfl rfl (by decide +kernel)
  exact href rfl

end SexySelfies.Moderation
