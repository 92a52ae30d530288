import SexySelfies.PayoutModel

/-!
# Admin accounts

`models/Admin.js` and `createAdmin` of `admin.auth.controller.js`. The document is created with the
permissions of the schema and saved again with those of its role.
-/

namespace SexySelfies.Admins

open Js Platform

inductive Role where
  | superAdmin | moderator | verificationStaff
deriving DecidableEq

def Role.names : List (String × Role) :=
  [("superAdmin", .superAdmin), ("moderator", .moderator),
   ("verificationStaff", .verificationStaff)]

structure Permissions where
  canDeleteUsers : Bool := false
  canManageAdmins : Bool := false
  canAccessFinancials : Bool := false
  canModifyPolicies : Bool := false
  canReviewContent : Bool := true
  canSuspendUsers : Bool := true
  canRemoveContent : Bool := true
  canApproveIDs : Bool := false

def Role.permissions : Role → Permissions
  | .superAdmin => ⟨true, true, true, true, true, true, true, true⟩
  | .moderator => ⟨false, false, false, false, true, true, true, false⟩
  | .verificationStaff => ⟨false, false, false, false, false, false, false, true⟩

structure Admin where
  email : String
  name : String
  role : Role
  permissions : Permissions
  createdBy : Nat
  email_valid : Payout.matchesEmail email = true
  name_present : name ≠ ""

structure Db where
  admins : List Admin

/-- The text a value casts to, `none` for a missing value or a `CastError`;
and the setter `lowercase`. -/
structure Env where
  castString : Value → Option String
  toLowerCase : String → String

/-! ## Creating an admin -/

structure CreateRequest where
  requester : Nat
  requesterRole : Role
  email : Value
  password : Value
  name : Value
  role : Value
  createAccepted : Bool
  permissionsAccepted : Bool

variable (env : Env) (r : CreateRequest)

def CreateRequest.roleOf : Option Role :=
  if r.role.truthy then (env.castString r.role).bind fun s => Role.names.lookup s
  else some .moderator

/-- The texts that `findOne({ email })` asks for: an array asks for any of its
elements, a missing value for none that is stored. -/
def queryTexts (v : Value) : Option (List String) :=
  match v with
  | .undefined => some []
  | .null => some []
  | .arr xs => xs.mapM fun x => (env.castString x).map env.toLowerCase
  | v => (env.castString v).map fun s => [env.toLowerCase s]

def CreateRequest.validated : Option Admin :=
  match env.castString r.email, env.castString r.password, env.castString r.name,
      r.roleOf env with
  | some email, some password, some name, some role =>
    if h : Payout.matchesEmail (env.toLowerCase email) = true ∧ name ≠ "" then
      if 8 ≤ utf16Length password then
        some
          { email := env.toLowerCase email, name, role, permissions := {},
            createdBy := r.requester, email_valid := h.1, name_present := h.2 }
      else none
    else none
  | _, _, _, _ => none

def storeAdmin (admin : Admin) (db : Db) : Db × Response Admin :=
  if r.createAccepted then
    if r.permissionsAccepted then
      let admin := { admin with permissions := admin.role.permissions }
      let db := { db with admins := db.admins ++ [admin] }
      if Payout.logAction "Admin" then (db, .success 201 "" (some admin))
      else (db, .failure 500 "Admin validation failed: actionsLog")
    else ({ db with admins := db.admins ++ [admin] }, .failure 500 "Admin validation failed")
  else (db, .failure 500 "E11000 duplicate key error")

def createAdmin (db : Db) : Db × Response Admin :=
  if r.requesterRole ≠ .superAdmin then
    (db, .failure 403 "Only super admins can create new admin accounts")
  else
    match queryTexts env r.email with
    | none => (db, .failure 500 "Cast to string failed")
    | some texts =>
      if db.admins.any fun a => a.email ∈ texts then
        (db, .failure 400 "Admin with this email already exists")
      else
        match r.validated env with
        | none => (db, .failure 500 "Admin validation failed")
        | some admin => storeAdmin r admin db

def CreateRequest.creates (db : Db) : Bool :=
  r.requesterRole = .superAdmin
    && (queryTexts env r.email).any (fun texts => !(db.admins.any fun a => a.email ∈ texts))
    && (r.validated env).isSome && r.createAccepted

theorem createAdmin_spec (db : Db) :
    (createAdmin env r db).2.isSuccess = false
      ∧ ((createAdmin env r db).1.admins.length = db.admins.length ↔ r.creates env db = false) := by
  unfold createAdmin CreateRequest.creates
  by_cases hr : r.requesterRole = .superAdmin
  · rw [if_neg (not_not.mpr hr)]
    cases htex : queryTexts env r.email with
    | none => simp [Response.isSuccess]
    | some texts =>
      cases hex : db.admins.any fun a => a.email ∈ texts with
      | true => simp [Response.isSuccess, hex]
      | false =>
        cases hv : r.validated env with
        | none => simp [Response.isSuccess, hex]
        | some =>
          have hlog : Payout.logAction "Admin" = false := by decide
          cases hacc : r.createAccepted with
          | false => simp [storeAdmin, Response.isSuccess, hex, hacc]
          | true =>
            cases hper : r.permissionsAccepted with
            | false => simp [storeAdmin, Response.isSuccess, hex, hacc, hper, hr]
            | true => simp [storeAdmin, Response.isSuccess, hex, hacc, hper, hr, hlog]
  · rw [if_pos hr]
    simp [Response.isSuccess, hr]

end SexySelfies.Admins
