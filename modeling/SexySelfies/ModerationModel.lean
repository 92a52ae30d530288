import SexySelfies.ViolationModel

/-!
# Moderation of users

The handlers of `admin.moderation.controller.js` that punish a user. Each writes two documents, the
moderation record of the user (`ViolationModel`) and the user (`models/User.js`). They assign paths
that `userSchema` does not declare, and strict mode drops them.
-/

namespace SexySelfies.Moderation

open Js Platform Violations

inductive Role where
  | member | creator | admin
deriving DecidableEq

def userPaths : List String :=
  ["_id", "__v", "email", "password", "role", "isEmailVerified", "emailVerificationToken",
   "emailVerificationExpire", "passwordResetToken", "passwordResetExpire", "isActive",
   "lastLogin", "createdAt", "updatedAt"]

structure User where
  role : Role
  fields : List (String × Value)
  declared : ∀ f ∈ fields, f.1 ∈ userPaths

def User.get (u : User) (name : String) : Value := (u.fields.lookup name).getD .undefined

theorem declared_assign {v fi : List (String × Value)} (h : ∀ f ∈ fi, f.1 ∈ userPaths) :
    ∀ f ∈ strict userPaths v ++ fi, f.1 ∈ userPaths := by
  intro f hf
  rcases List.mem_append.mp hf with hnew | hold
  · exact of_decide_eq_true (List.mem_filter.mp hnew).2
  · exact h f hold

def User.assign (u : User) (values : List (String × Value)) : User :=
  { u with
    fields := strict userPaths values ++ u.fields
    declared := declared_assign u.declared }

theorem get_of_not_declared {name : String} (h : name ∉ userPaths) (u : User) :
    u.get name = .undefined := by
  have hn : u.fields.lookup name = none := by
    rw [List.lookup_eq_none_iff]
    intro f hf
    have hne : name ≠ f.1 := fun heq => h (heq ▸ u.declared f hf)
    exact bne_iff_ne.mpr hne
  rw [User.get, hn]
  rfl

inductive ReportType where
  | inappropriateContent | underage | harassment | spam | fakeAccount | violence | selfHarm
  | hateSpeech | copyright | termsViolation | manualReview | aiFlagged | other
deriving DecidableEq

inductive ReportSeverity where
  | low | medium | high | critical
deriving DecidableEq

inductive ReportStatus where
  | pending | underReview | resolved | dismissed | escalated | appealed
deriving DecidableEq

inductive Action where
  | noAction | contentRemoved | contentHidden | userWarned | userSuspended24h | userSuspended7d
  | userSuspended30d | userBanned | payoutFrozen | falseReport | reporterWarned
deriving DecidableEq

structure Decision where
  action : Option Action
  reason : Option String
  details : Option String
deriving DecidableEq

structure Report where
  reportType : ReportType
  severity : ReportSeverity
  status : ReportStatus
  reportedUser : Nat
  reportedContent : Option Nat
  reviewedBy : Option Nat
  reviewCompletedAt : Option ℤ
  decision : Decision
  appealAllowed : Bool
  appealDeadline : Option ℤ
deriving DecidableEq

structure Db where
  users : List User
  violations : Nat → Option Record
  reports : List Report
  creators : List Nat

variable (db : Db)

def Db.putRecord (user : Nat) (r : Record) : Db :=
  { db with violations := Function.update db.violations user (some r) }

/-- The time and the admin of a call, and what the database answers to the creation of a record,
its saves, the save of the other document, and the update of content. -/
structure Context where
  now : ℤ
  adminId : Ref
  created : Bool
  answers : List Bool
  saved : Bool
  contentUpdated : Bool

/-- `findOne({ user })`, or `create({ user, userType: role })`: an admin is no
`userType`. -/
def Db.openRecord (c : Context) (user : Nat) (role : Role) : Option Record :=
  match db.violations user with
  | some r => some r
  | none => if role ≠ .admin ∧ c.created = true then some newRecord else none

def Db.callRecord (c : Context) (user : Nat) (r : Record)
    (method : Session → Except Session Session) : Except Db Db :=
  match method ⟨r.doc, r, c.answers⟩ with
  | .ok s => .ok (db.putRecord user s.stored)
  | .error s => .error (db.putRecord user s.stored)

def Db.saveUser (c : Context) (user : Nat) (u : User)
    (values : List (String × Value)) : Except Db Db :=
  if c.saved then .ok { db with users := db.users.set user (u.assign values) } else .error db

variable (numeral : Number → String) (c : Context)

def suspendRecord (role : Role) (duration reason freeze : Value) (s : Session) :
    Except Session Session := do
  let s ← suspend numeral c.now duration reason c.adminId s
  if freeze.truthy = true ∧ role = .creator then
    freezePayouts c.now (.num (duration.toNumber.div 24)) c.adminId s
  else .ok s

variable (userId : Ref)

/-- The text of the answer names the duration, which is left out. -/
def suspendUser (duration reason freeze : Value) (db : Db) :
    Db × Response Unit :=
  match userId with
  | .malformed => (db, .failure 500 "Failed to suspend user")
  | .absent => (db, .failure 404 "User not found")
  | .id id =>
    match db.users[id]? with
    | none => (db, .failure 404 "User not found")
    | some user =>
      match db.openRecord c id user.role with
      | none => (db, .failure 500 "Failed to suspend user")
      | some r =>
        let outcome := do
          let db ← db.callRecord c id r
            (suspendRecord numeral c user.role duration reason freeze)
          db.saveUser c id user [("status", .str "suspended")]
        match outcome with
        | .ok db => (db, .success 200 "User suspended" none)
        | .error db => (db, .failure 500 "Failed to suspend user")

def banUser (reason deleteContent : Value) (db : Db) :
    Db × Response Unit :=
  match userId with
  | .malformed => (db, .failure 500 "Failed to ban user")
  | .absent => (db, .failure 404 "User not found")
  | .id id =>
    match db.users[id]? with
    | none => (db, .failure 404 "User not found")
    | some user =>
      match db.openRecord c id user.role with
      | none => (db, .failure 500 "Failed to ban user")
      | some r =>
        let outcome := do
          let db ← db.callRecord c id r (ban numeral c.now reason c.adminId)
          let db ← db.saveUser c id user
            [("status", .str "banned"), ("bannedAt", .num (.fin c.now)),
             ("bannedReason", reason)]
          if deleteContent.truthy && !c.contentUpdated then .error db else .ok db
        match outcome with
        | .ok db => (db, .success 200 "User banned successfully" none)
        | .error db => (db, .failure 500 "Failed to ban user")

def liftSuspension (reason : Value) (db : Db) : Db × Response Unit :=
  match userId with
  | .malformed => (db, .failure 500 "Failed to lift suspension")
  | .absent => (db, .failure 404 "No violation record found")
  | .id id =>
    match db.violations id with
    | none => (db, .failure 404 "No violation record found")
    | some r =>
      let outcome := do
        let db ← db.callRecord c id r
          (Violations.liftSuspension numeral c.now c.adminId reason)
        match db.users[id]? with
        | none => .ok db
        | some user => db.saveUser c id user [("status", .str "active")]
      match outcome with
      | .ok db => (db, .success 200 "Suspension lifted successfully" none)
      | .error db => (db, .failure 500 "Failed to lift suspension")

end SexySelfies.Moderation
