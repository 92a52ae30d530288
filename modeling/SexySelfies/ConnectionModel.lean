import SexySelfies.Collection
import SexySelfies.ModerationModel

/-!
# Connections of members and creators

`models/CreatorConnection.js` with the operations that write it: `processSwipe` and
`handleConnectionResponse` of `services/connections.service.js`, the handlers of
`connections.controller.js` above them, and `likeCreator` of `member.controller.js`.

- The enumeration of `status` has no `rejected`. A left swipe and a declined request assign it, and
  their saves are refused.
- `isConnected` is no path: it is neither stored nor loaded.
-/

namespace SexySelfies.Connections

open Js Platform

open Moderation (Role)

/-! ## Documents -/

inductive Status where
  | pending | connected | disconnected | blocked
deriving DecidableEq

def Status.text : Status → String
  | .pending => "pending"
  | .connected => "connected"
  | .disconnected => "disconnected"
  | .blocked => "blocked"

def Status.names : List (String × Status) :=
  [("pending", .pending), ("connected", .connected), ("disconnected", .disconnected),
   ("blocked", .blocked)]

inductive Direction where
  | right | left
deriving DecidableEq

structure Connection where
  member : Nat
  creator : Nat
  status : Status := .pending
  connectedAt : Option ℤ := none
  disconnectedAt : Option ℤ := none
  memberLiked : Bool := false
  creatorLiked : Bool := false
  creatorAccepted : Bool := false
  memberSwiped : Option Direction := none
  creatorSwiped : Option Direction := none
  fromCreator : Nat := 0
  fromMember : Nat := 0
deriving DecidableEq

structure Document where
  paths : Connection
  status : String
  isConnected : Bool

def Connection.load (c : Connection) : Document := ⟨c, c.status.text, false⟩

/-- What a save stores, if the status is one of the enumeration and the
database takes the write. -/
def Document.save (saved : Bool) (d : Document) : Option Connection :=
  if saved then (Status.names.lookup d.status).map fun status => { d.paths with status } else none

structure Message where
  sender : Nat
  senderModel : String

structure Db where
  connections : List (Option Connection)
  likes : Nat → List Nat
  passes : Nat → List Nat
  messages : List Message

def Db.noConnections (likes passes : Nat → List Nat) (messages : List Message) : Db :=
  ⟨[], likes, passes, messages⟩

variable (db : Db)

def Db.find? (id : Nat) : Option Connection := db.connections[id]?.join

def Db.pair? (member creator : Nat) : Option (Nat × Connection) :=
  match Collection.findOne (fun o : Option Connection =>
      o.any fun c => c.member = member ∧ c.creator = creator) db.connections with
  | some (id, some c) => some (id, c)
  | _ => none

def Db.put (id : Nat) (c : Connection) : Db :=
  { db with connections := db.connections.set id (some c) }

def Db.insert (c : Connection) : Db :=
  { db with connections := db.connections ++ [some c] }

def Db.delete (ids : List Nat) : Db :=
  { db with connections := Collection.updateMany ids (fun _ => none) db.connections }

def Db.upsert (member creator : Nat) (f : Connection → Connection) (new : Connection) :
    Db :=
  match db.pair? member creator with
  | some (id, c) => db.put id (f c)
  | none => db.insert new

structure User where
  id : Nat
  role : Role

structure Env where
  memberOf : Nat → Option Nat
  creatorOf : Nat → Option Nat
  isCreator : Nat → Bool

def isText (text : String) : Value → Bool
  | .str s => s = text
  | _ => false

/-! ## The service -/

inductive Swipe where
  | left | right | super
deriving DecidableEq

def Swipe.names : List (String × Swipe) := [("left", .left), ("right", .right), ("super", .super)]

def Swipe.ofValue : Value → Option Swipe
  | .str s => Swipe.names.lookup s
  | _ => none

def Swipe.direction : Swipe → Direction
  | .left => .left
  | .right => .right
  | .super => .right

def Swipe.message : Swipe → String
  | .left => "Passed"
  | .right => "Like sent! 💕"
  | .super => "Super like sent! ⭐"

def validationFailed : String := "CreatorConnection validation failed"

def Connection.recordSwipe (swipe : Swipe) (c : Connection) : Document :=
  let c := { c with memberSwiped := some swipe.direction }
  match swipe with
  | .left => { c.load with status := "rejected" }
  | .right => { { c with memberLiked := true }.load with status := "pending" }
  | .super => { { c with memberLiked := true }.load with status := "pending" }

structure SwipeResult where
  success : Bool
  message : String
  connection : Option Connection

def processSwipe (memberId : Nat) (creatorId : Ref) (direction : Value) (saved : Bool) (db : Db) :
    Except String (Db × SwipeResult) :=
  match Swipe.ofValue direction with
  | none => .error "Invalid swipe direction"
  | some swipe =>
    match creatorId with
    | .malformed => .error (castError "CreatorConnection")
    | .absent => .error validationFailed
    | .id creator =>
      match db.pair? memberId creator with
      | some (id, c) =>
        if c.memberSwiped.isSome then
          .ok (db, ⟨false, "Already swiped on this creator", none⟩)
        else
          match (c.recordSwipe swipe).save saved with
          | none => .error validationFailed
          | some c => .ok (db.put id c, ⟨true, swipe.message, some c⟩)
      | none =>
        match (Connection.recordSwipe swipe { member := memberId, creator }).save saved with
        | none => .error validationFailed
        | some c => .ok (db.insert c, ⟨true, swipe.message, some c⟩)

variable (now : ℤ)

/-- `establishConnection`; its errors are swallowed after the assignments. -/
def Document.establishConnection (notified : Bool) (d : Document) : Document × Bool :=
  (⟨{ d.paths with connectedAt := some now }, "connected", true⟩, notified)

def Connection.respond (action : String) (now : ℤ) (notified : Bool) (c : Connection) :
    Document × Bool :=
  let accepts := action = "accept"
  let c := { c with
    creatorLiked := accepts
    creatorAccepted := accepts
    creatorSwiped := some (if accepts then .right else .left) }
  if accepts then c.load.establishConnection now notified
  else ({ { c with disconnectedAt := some now }.load with status := "rejected" }, false)

structure ResponseResult where
  connection : Connection
  isNewConnection : Bool

variable (env : Env)

def handleConnectionResponse (user : Nat) (connectionId : Ref) (action : String)
    (now : ℤ) (notified saved : Bool) (db : Db) : Except String (Db × ResponseResult) :=
  match env.creatorOf user with
  | none => .error "Creator profile not found"
  | some creator =>
    match connectionId with
    | .malformed => .error (castError "CreatorConnection")
    | .absent => .error "Pending connection not found"
    | .id id =>
      match db.find? id with
      | none => .error "Pending connection not found"
      | some c =>
        if c.creator = creator ∧ c.status = .pending then
          match (c.respond action now notified).1.save saved with
          | none => .error validationFailed
          | some c' => .ok (db.put id c', ⟨c', (c.respond action now notified).2⟩)
        else .error "Pending connection not found"

/-! ## The handlers -/

def swipeDirection (action : Value) : Value :=
  if isText "like" action then .str "right"
  else if isText "pass" action then .str "left"
  else action

variable (user : User)

def swipeAction (creatorId : Ref) (action : Value)
    (saved memberSaved : Bool) (db : Db) : Db × Response Connection :=
  if user.role ≠ .member then (db, .failure 403 "Only members can swipe on creators")
  else
    match env.memberOf user.id with
    | none => (db, .failure 404 "Member profile not found")
    | some member =>
      let direction := swipeDirection action
      match processSwipe member creatorId direction saved db with
      | .error message => (db, .failure 500 message)
      | .ok (db, result) =>
        if !result.success then (db, .failure 400 result.message)
        else if !memberSaved then (db, .failure 500 "Member validation failed")
        else
          let creators := match creatorId with
            | .id creator => [creator]
            | _ => []
          let db :=
            if isText "right" direction then
              { db with likes := Function.update db.likes member (db.likes member ++ creators) }
            else if isText "left" direction then
              { db with
                passes := Function.update db.passes member (db.passes member ++ creators) }
            else db
          (db, .success 200 result.message result.connection)

variable (connectionId : Ref)

def acceptCreatorConnection (now : ℤ)
    (notified saved : Bool) (db : Db) : Db × Response Connection :=
  if user.role ≠ .creator then (db, .failure 403 "Only creators can accept connection requests")
  else
    match handleConnectionResponse env user.id connectionId "accept" now notified saved db with
    | .error message => (db, .failure 500 message)
    | .ok (db, result) =>
      (db, .success 200
        (if result.isNewConnection then "It's a connection! 🎉" else "Connection declined")
        (some result.connection))

def declineCreatorConnection (now : ℤ)
    (notified saved : Bool) (db : Db) : Db × Response Connection :=
  if user.role ≠ .creator then (db, .failure 403 "Only creators can decline connection requests")
  else
    match handleConnectionResponse env user.id connectionId "decline" now notified saved db with
    | .error message => (db, .failure 500 message)
    | .ok (db, result) =>
      (db, .success 200
        (if result.isNewConnection then "It's a connection! 🎉" else "Connection declined")
        (some result.connection))

variable (c : Connection)

def Connection.block : Connection :=
  { c with status := .blocked, disconnectedAt := some now }

/-- `findByIdAndUpdate`; of the update, `isActive`, `disconnectedBy` and
`disconnectReason` are no paths. -/
def blockCreatorConnection (now : ℤ) (saved : Bool) (db : Db) :
    Db × Response Connection :=
  match connectionId with
  | .malformed => (db, .failure 500 (castError "CreatorConnection"))
  | .absent => (db, .failure 404 "CreatorConnection not found")
  | .id id =>
    match db.find? id with
    | none => (db, .failure 404 "CreatorConnection not found")
    | some c =>
      if saved then (db.put id (c.block now), .success 200 "" (some (c.block now)))
      else (db, .failure 500 "Update failed")

def Env.userProfile : Option Nat :=
  if user.role = .member then env.memberOf user.id else env.creatorOf user.id

def Connection.isOf (userProfileId : Nat) : Bool :=
  c.member = userProfileId || c.creator = userProfileId

def unmatch (deleted : Bool) (db : Db) :
    Db × Response Connection :=
  match connectionId with
  | .malformed => (db, .failure 500 (castError "CreatorConnection"))
  | .absent => (db, .failure 404 "Connection not found")
  | .id id =>
    match db.find? id with
    | none => (db, .failure 404 "Connection not found")
    | some c =>
      match env.userProfile user with
      | none => (db, .failure 403 "User profile not found")
      | some userProfileId =>
        if !c.isOf userProfileId then
          (db, .failure 403 "Not authorized to delete this connection")
        else if deleted then
          (db.delete [id], .success 200 "Connection deleted successfully" none)
        else (db, .failure 500 "Delete failed")

def refIds (refs : List Ref) : Option (List Nat) :=
  (refs.mapM Ref.stored).map fun ids => ids.filterMap id

/-- The first four actions only write `isArchived`, `isMuted` and
`lastInteraction`, which are no paths. -/
def bulkCreatorConnectionAction (connectionIds : Option (List Ref))
    (action : Value) (written : Bool) (db : Db) : Db × Response Connection :=
  match connectionIds with
  | none => (db, .failure 400 "Connection IDs are required")
  | some [] => (db, .failure 400 "Connection IDs are required")
  | some refs =>
    if isText "archive" action || isText "unarchive" action || isText "mute" action
        || isText "unmute" action then
      match refIds refs with
      | none => (db, .failure 500 (castError "CreatorConnection"))
      | some _ =>
        if written then (db, .success 200 "" none) else (db, .failure 500 "Update failed")
    else if isText "delete" action then
      match env.userProfile user with
      | none => (db, .failure 403 "User profile not found")
      | some userProfileId =>
        match refIds refs with
        | none => (db, .failure 500 (castError "CreatorConnection"))
        | some ids =>
          let unauthorized := ids.filter fun id =>
            (db.find? id).any fun c => !c.isOf userProfileId
          if !unauthorized.isEmpty then
            (db, .failure 403 ("Not authorized to delete "
              ++ toString unauthorized.dedup.length ++ " connections"))
          else if written then (db.delete ids, .success 200 "" none)
          else (db, .failure 500 "Delete failed")
    else (db, .failure 400 "Invalid action")

structure LikeSaves where
  member : Bool
  creator : Bool
  connection : Bool
  activity : Bool

def Connection.like : Document :=
  if c.creatorLiked then
    { { c with memberLiked := true, connectedAt := some now }.load with isConnected := true }
  else { c with memberLiked := true }.load

def likeConnection (member creator : Nat) (now : ℤ) (saves : LikeSaves) (db : Db) :
    Db × Response Connection :=
  let finish (db : Db) (c : Connection) : Db × Response Connection :=
    (db, if saves.activity then .success 200 "" (some c)
      else .failure 500 "Activity not recorded")
  match db.pair? member creator with
  | none =>
    let c : Connection := { member, creator, memberLiked := true }
    if saves.connection then finish (db.insert c) c
    else (db, .failure 500 validationFailed)
  | some (id, c) =>
    if c.creatorLiked && !saves.creator then (db, .failure 500 "Creator validation failed")
    else
      match (c.like now).save saves.connection with
      | none => (db, .failure 500 validationFailed)
      | some c => finish (db.put id c) c

def likeCreator (creatorId : Ref) (now : ℤ) (saves : LikeSaves)
    (db : Db) : Db × Response Connection :=
  match creatorId with
  | .malformed => (db, .failure 500 (castError "Creator"))
  | .absent => (db, .failure 404 "Creator not found")
  | .id creator =>
    if !env.isCreator creator then (db, .failure 404 "Creator not found")
    else
      match env.memberOf user.id with
      | none => (db, .failure 500 "Cannot read properties of null (reading 'likes')")
      | some member =>
        if creator ∈ db.likes member then (db, .failure 400 "Already liked this creator")
        else if !saves.member then (db, .failure 500 "Member validation failed")
        else
          likeConnection member creator now saves
            { db with likes := Function.update db.likes member (db.likes member ++ [creator]) }

/-- The paths that `Message` requires, and those that `sendMessage` sets. -/
def requiredPaths : List String :=
  ["conversation", "sender", "senderModel", "recipient", "recipientModel"]

def sentPaths : List String := ["connection", "sender", "senderModel", "content"]

def Connection.updateLastMessage (role : Role) (c : Connection) : Connection :=
  if role = .member then { c with fromMember := c.fromMember + 1 }
  else { c with fromCreator := c.fromCreator + 1 }

def sendMessage (saved : Bool) (db : Db) :
    Db × Response Connection :=
  match connectionId with
  | .malformed => (db, .failure 500 (castError "CreatorConnection"))
  | .absent => (db, .failure 404 "CreatorConnection not found or not active")
  | .id id =>
    match db.find? id with
    | none => (db, .failure 404 "CreatorConnection not found or not active")
    | some c =>
      if !c.load.isConnected then
        (db, .failure 404 "CreatorConnection not found or not active")
      else if !requiredPaths.all (· ∈ sentPaths) then
        (db, .failure 500 "Message validation failed")
      else
        let message : Message :=
          ⟨user.id, if user.role = .member then "Member" else "Creator"⟩
        let db := { db with messages := db.messages ++ [message] }
        match (c.updateLastMessage user.role).load.save saved with
        | none => (db, .failure 500 validationFailed)
        | some c => (db.put id c, .success 201 "" (some c))

inductive Request where
  | likeCreator (creatorId : Ref) (now : ℤ) (saves : LikeSaves)
  | swipeAction (creatorId : Ref) (action : Value) (saved memberSaved : Bool)
  | acceptCreatorConnection (connectionId : Ref) (now : ℤ) (notified saved : Bool)
  | declineCreatorConnection (connectionId : Ref) (now : ℤ) (notified saved : Bool)
  | blockCreatorConnection (connectionId : Ref) (now : ℤ) (saved : Bool)
  | unmatch (connectionId : Ref) (deleted : Bool)
  | bulkCreatorConnectionAction (connectionIds : Option (List Ref)) (action : Value)
      (written : Bool)
  | sendMessage (connectionId : Ref) (saved : Bool)

structure Call where
  user : User
  request : Request

def Call.run (c : Call) (db : Db) : Db × Response Connection :=
  match c.request with
  | .likeCreator creatorId now saves => Connections.likeCreator env c.user creatorId now saves db
  | .swipeAction creatorId action saved memberSaved =>
    Connections.swipeAction env c.user creatorId action saved memberSaved db
  | .acceptCreatorConnection connectionId now notified saved =>
    Connections.acceptCreatorConnection env c.user connectionId now notified saved db
  | .declineCreatorConnection connectionId now notified saved =>
    Connections.declineCreatorConnection env c.user connectionId now notified saved db
  | .blockCreatorConnection connectionId now saved =>
    Connections.blockCreatorConnection connectionId now saved db
  | .unmatch connectionId deleted => Connections.unmatch env c.user connectionId deleted db
  | .bulkCreatorConnectionAction connectionIds action written =>
    Connections.bulkCreatorConnectionAction env c.user connectionIds action written db
  | .sendMessage connectionId saved => Connections.sendMessage c.user connectionId saved db

def step (db : Db) (c : Call) : Db := (c.run env db).1

/-! ## Finding connections -/

variable {db : Db} {id member creator : Nat} {c c' : Connection}

theorem pair?_some (h : db.pair? member creator = some (id, c)) :
    db.find? id = some c ∧ c.member = member ∧ c.creator = creator := by
  unfold Db.pair? at h
  split at h
  · rename_i hf
    cases h
    obtain ⟨hget, hp⟩ := Collection.findOne_some hf
    rw [Option.any_some, decide_eq_true_eq] at hp
    exact ⟨by rw [Db.find?, hget]; rfl, hp⟩
  · cases h

theorem pair?_none (h : db.pair? member creator = none) (hfi : db.find? id = some c) :
    ¬ (c.member = member ∧ c.creator = creator) := by
  intro hp
  have hget : db.connections[id]? = some (some c) := by
    unfold Db.find? at hfi
    rwa [Option.join_eq_some_iff] at hfi
  unfold Db.pair? at h
  split at h
  · cases h
  · rename_i hno
    cases hf : Collection.findOne (fun o : Option Connection =>
        o.any fun c => c.member = member ∧ c.creator = creator) db.connections with
    | none =>
      have hnot := Collection.findOne_eq_none.mp hf (some c) (List.mem_of_getElem? hget)
      rw [Option.any_some, decide_eq_false_iff_not] at hnot
      exact hnot hp
    | some found =>
      obtain ⟨j, o⟩ := found
      cases o with
      | none => exact Bool.false_ne_true (Collection.findOne_some hf).2
      | some c' => exact hno j c' hf

theorem find?_lt (h : db.find? id = some c) : id < db.connections.length := by
  unfold Db.find? at h
  rw [Option.join_eq_some_iff] at h
  exact (List.getElem?_eq_some_iff.mp h).1

variable {j : Nat}

theorem find?_put (h : db.find? id = some c) :
    (db.put id c').find? j = if j = id then some c' else db.find? j := by
  unfold Db.put Db.find?
  by_cases hj : j = id
  · rw [if_pos hj, hj, List.getElem?_set_self (find?_lt h)]
    rfl
  · rw [if_neg hj, List.getElem?_set_ne (Ne.symm hj)]

theorem find?_insert :
    (db.insert c).find? j = if j = db.connections.length then some c else db.find? j := by
  unfold Db.insert Db.find?
  rw [List.getElem?_append]
  by_cases hlt : j < db.connections.length
  · rw [if_pos hlt, if_neg (Nat.ne_of_lt hlt)]
  · rw [if_neg hlt]
    by_cases hj : j = db.connections.length
    · rw [if_pos hj, hj, Nat.sub_self]
      rfl
    · have hpos : 1 ≤ j - db.connections.length := by omega
      rw [if_neg hj, List.getElem?_eq_none (by simpa using hpos),
        List.getElem?_eq_none (Nat.le_of_not_lt hlt)]

theorem find?_delete (ids : List Nat) :
    (db.delete ids).find? j = if j ∈ ids then none else db.find? j := by
  unfold Db.delete Db.find?
  rw [Collection.getElem?_updateMany]
  cases db.connections[j]? with
  | none => simp
  | some => by_cases hj : j ∈ ids <;> simp [hj]

theorem lookup_text (status : Status) : Status.names.lookup status.text = some status := by
  cases status <;> rfl

variable {saved : Bool}

theorem save_of_text {d : Document} {status : Status} (h : d.status = status.text) :
    d.save saved = if saved then some { d.paths with status } else none := by
  rw [Document.save, h, lookup_text, Option.map_some]

theorem save_load : c.load.save saved = if saved then some c else none := save_of_text rfl

theorem save_rejected {d : Document} (h : d.status = "rejected") : d.save saved = none := by
  unfold Document.save
  rw [h]
  cases saved <;> rfl

def Db.Unique (db : Db) : Prop :=
  ∀ i j a b, db.find? i = some a → db.find? j = some b → a.member = b.member →
    a.creator = b.creator → i = j

theorem unique_put (h : db.Unique) (hf : db.find? id = some c) (hmb : c'.member = c.member)
    (hcr : c'.creator = c.creator) : (db.put id c').Unique := by
  have hke : ∀ j b, (db.put id c').find? j = some b →
      ∃ a, db.find? j = some a ∧ b.member = a.member ∧ b.creator = a.creator := by
    intro j b hb
    rw [find?_put hf] at hb
    split at hb
    · rename_i hj
      cases hb
      exact ⟨c, hj ▸ hf, hmb, hcr⟩
    · exact ⟨b, hb, rfl, rfl⟩
  intro i j a b ha hb hm hc
  obtain ⟨a', ha', ham, hac⟩ := hke i a ha
  obtain ⟨b', hb', hbm, hbc⟩ := hke j b hb
  exact h i j a' b' ha' hb' (ham.symm.trans (hm.trans hbm)) (hac.symm.trans (hc.trans hbc))

theorem unique_insert (h : db.Unique) (hf : db.pair? c.member c.creator = none) :
    (db.insert c).Unique := by
  intro i j a b ha hb hm hc
  rw [find?_insert] at ha hb
  split at ha
  · rename_i hi
    cases ha
    split at hb
    · rename_i hj
      rw [hi, hj]
    · exact absurd ⟨hm.symm, hc.symm⟩ (pair?_none hf hb)
  · split at hb
    · cases hb
      exact absurd ⟨hm, hc⟩ (pair?_none hf ha)
    · exact h i j a b ha hb hm hc

theorem unique_delete (h : db.Unique) (ids : List Nat) : (db.delete ids).Unique := by
  intro i j a b ha hb hm hc
  rw [find?_delete, Option.ite_none_left_eq_some] at ha hb
  exact h i j a b ha.2 hb.2 hm hc

/-! ## Writing the connection of a pair -/

variable {f : Connection → Connection} {new : Connection}

theorem unique_upsert (h : db.Unique)
    (hf : ∀ c, (f c).member = c.member ∧ (f c).creator = c.creator)
    (hnew : new.member = member ∧ new.creator = creator) :
    (db.upsert member creator f new).Unique := by
  unfold Db.upsert
  split
  · rename_i id c hp
    exact unique_put h (pair?_some hp).1 (hf c).1 (hf c).2
  · rename_i hp
    rw [← hnew.1, ← hnew.2] at hp
    exact unique_insert h hp

theorem find?_upsert (h : (db.upsert member creator f new).find? id = some c) : db.find? id = some c
      ∨ (∃ c₀, db.find? id = some c₀ ∧ c₀.member = member ∧ c₀.creator = creator ∧ c = f c₀)
      ∨ db.pair? member creator = none ∧ c = new := by
  unfold Db.upsert at h
  split at h
  · rename_i j c₀ hp
    obtain ⟨hf, hmb, hcr⟩ := pair?_some hp
    rw [find?_put hf] at h
    split at h
    · rename_i hid
      cases h
      exact .inr (.inl ⟨c₀, hid ▸ hf, hmb, hcr, rfl⟩)
    · exact .inl h
  · rename_i hp
    rw [find?_insert] at h
    split at h
    · cases h
      exact .inr (.inr ⟨hp, rfl⟩)
    · exact .inl h

theorem find?_upsert_of_ne (hf : db.find? id = some c)
    (hne : ¬ (c.member = member ∧ c.creator = creator)) :
    (db.upsert member creator f new).find? id = some c := by
  unfold Db.upsert
  split
  · rename_i j c₀ hp
    obtain ⟨hf₀, hbtw⟩ := pair?_some hp
    rw [find?_put hf₀]
    split
    · rename_i hid
      rw [hid, hf₀] at hf
      cases hf
      exact absurd hbtw hne
    · exact hf
  · rwa [find?_insert, if_neg (Nat.ne_of_lt (find?_lt hf))]

theorem exists_upsert : ∃ id c, (db.upsert member creator f new).find? id = some c
      ∧ ((∃ c₀, db.find? id = some c₀ ∧ c₀.member = member ∧ c₀.creator = creator ∧ c = f c₀)
        ∨ db.pair? member creator = none ∧ c = new) := by
  unfold Db.upsert
  cases hp : db.pair? member creator with
  | none => exact ⟨_, new, find?_insert.trans (if_pos rfl), .inr ⟨rfl, rfl⟩⟩
  | some found =>
    obtain ⟨id, c₀⟩ := found
    obtain ⟨hf, hbtw⟩ := pair?_some hp
    exact ⟨id, f c₀, (find?_put hf).trans (if_pos rfl), .inl ⟨c₀, hf, hbtw.1, hbtw.2, rfl⟩⟩

/-! ## What the service writes -/

def Connection.swiped (c : Connection) : Connection :=
  { c with memberSwiped := some .right, memberLiked := true, status := .pending }

def Connection.accepted (c : Connection) : Connection :=
  { c with
    creatorLiked := true
    creatorAccepted := true
    creatorSwiped := some .right
    connectedAt := some now
    status := .connected }

def Db.swipe (db : Db) (member creator : Nat) : Db :=
  db.upsert member creator Connection.swiped (Connection.swiped { member, creator })

def Db.hasSwiped (db : Db) (member creator : Nat) : Bool :=
  (db.pair? member creator).any fun x => x.2.memberSwiped.isSome

def Db.afterSwipe (db : Db) (member creator : Nat) : Connection :=
  match db.pair? member creator with
  | some (_, c) => c.swiped
  | none => Connection.swiped { member, creator }

variable {db' : Db} {env : Env}

theorem save_recordSwipe (swipe : Swipe) : (c.recordSwipe swipe).save saved
      = if saved = true ∧ swipe ≠ .left then some c.swiped else none := by
  cases saved with
  | false | true => cases swipe <;> rfl

theorem processSwipe_id (direction : Value) : processSwipe member (.id creator) direction saved db =
      match Swipe.ofValue direction with
      | none => .error "Invalid swipe direction"
      | some swipe =>
        if db.hasSwiped member creator then
          .ok (db, ⟨false, "Already swiped on this creator", none⟩)
        else if saved ∧ swipe ≠ .left then .ok (db.swipe member creator,
            ⟨true, swipe.message, some (db.afterSwipe member creator)⟩)
        else .error validationFailed := by
  unfold processSwipe Db.hasSwiped Db.swipe Db.upsert Db.afterSwipe
  cases Swipe.ofValue direction with
  | none => rfl
  | some swipe =>
    simp only [save_recordSwipe]
    by_cases hst : saved = true ∧ swipe ≠ .left
    · simp only [if_pos hst]
      cases db.pair? member creator <;> rfl
    · simp only [if_neg hst]
      cases db.pair? member creator <;> rfl

theorem processSwipe_ok {creatorId : Ref} {direction : Value} {saved : Bool} {result : SwipeResult}
    (h : processSwipe member creatorId direction saved db = .ok (db', result)) :
    db' = db ∨ ∃ creator swipe, creatorId = .id creator ∧ Swipe.ofValue direction = some swipe
      ∧ swipe ≠ .left ∧ db.hasSwiped member creator = false ∧ db' = db.swipe member creator := by
  cases creatorId with
  | malformed | absent =>
    unfold processSwipe at h
    split at h <;> cases h
  | id creator =>
    rw [processSwipe_id] at h
    split at h
    · cases h
    · rename_i swipe hsw
      split at h
      · cases h
        exact .inl rfl
      · rename_i hf
        split at h
        · rename_i hst
          cases h
          exact .inr ⟨creator, swipe, rfl, hsw, hst.2, by simpa using hf, rfl⟩
        · cases h

theorem save_respond (a : String) (now : ℤ) (notified : Bool) :
    (c.respond a now notified).1.save saved
      = if a = "accept" ∧ saved = true then some (c.accepted now) else none := by
  unfold Connection.respond
  by_cases hac : a = "accept"
  · have hco : ∀ d : Document, d.status = "connected" →
        d.save saved = if saved then some { d.paths with status := .connected } else none :=
      fun d hd => save_of_text hd
    simp only [hac, if_true, true_and]
    refine (hco _ rfl).trans ?_
    simp [Document.establishConnection, Connection.load, Connection.accepted]
  · have hre : ∀ d : Document, d.status = "rejected" → d.save saved = none :=
      fun d hd => save_rejected hd
    simp only [hac, if_false, false_and]
    exact hre _ rfl

theorem handleConnectionResponse_ok {user : Nat} {ci : Ref} {a : String} {now : ℤ}
    {notified saved : Bool} {result : ResponseResult}
    (h : handleConnectionResponse env user ci a now notified saved db = .ok (db', result)) :
    ∃ id c, ci = .id id ∧ db.find? id = some c ∧ env.creatorOf user = some c.creator
      ∧ c.status = .pending ∧ a = "accept" ∧ saved ∧ db' = db.put id (c.accepted now) := by
  unfold handleConnectionResponse at h
  split at h
  · cases h
  · rename_i creator hcr
    split at h
    · cases h
    · cases h
    · rename_i id
      split at h
      · cases h
      · rename_i c hf
        split at h
        · rename_i hp
          rw [save_respond] at h
          split at h
          · cases h
          · rename_i c' hs
            rw [Option.ite_none_right_eq_some] at hs
            obtain ⟨⟨hac, hdb⟩, hc'⟩ := hs
            cases h
            cases hc'
            exact ⟨id, c, rfl, hf, hp.1 ▸ hcr, hp.2, hac, hdb, rfl⟩
        · cases h

end SexySelfies.Connections
