import SexySelfies.ConnectionBlocking

/-!
# Messages over a connection

`sendMessage` of `connections.controller.js` asks the loaded document for `isConnected`, which no
document has: the operations that establish a connection store the status. The message it would
create lacks three required paths as well.
-/

namespace SexySelfies.Connections

open Js Platform

def Connection.canMessage (c : Connection) : Bool := c.status = .connected

variable (env : Env) (db : Db)

/-- The sender takes part in a connection open to messages. -/
def MaySend (user : User) (connectionId : Ref) : Prop :=
  ∃ id c, connectionId = .id id ∧ db.find? id = some c ∧ c.canMessage = true
    ∧ Participant env user c

/-- The message is counted for the side that sent it. -/
def Counted (db db' : Db) (user : User) (connectionId : Ref) : Prop :=
  ∀ id c, connectionId = .id id → db.find? id = some c → ∃ c', db'.find? id = some c' ∧
    if env.owns user c.member then
      c'.fromMember = c.fromMember + 1 ∧ c'.fromCreator = c.fromCreator
    else c'.fromMember = c.fromMember ∧ c'.fromCreator = c.fromCreator + 1

/-- A request creates a message exactly when it is a `sendMessage` of a user who
may, and the message is counted. -/
def Delivers (c : Call) : Prop :=
  match c.request with
  | .sendMessage connectionId _ =>
    ((step env db c).messages.length = db.messages.length + 1
        ↔ MaySend env db c.user connectionId)
      ∧ ((step env db c).messages.length = db.messages.length + 1 →
        Counted env db (step env db c) c.user connectionId)
  | _ => True

def Silent (c : Call) : Prop :=
  match c.request with
  | .sendMessage connectionId _ => ¬ MaySend env db c.user connectionId
  | _ => True

theorem step_sendMessage (user : User) (c : Ref) (saved : Bool) :
    step env db ⟨user, .sendMessage c saved⟩ = db := connections_sendMessage

theorem delivers_iff_silent (c : Call) :
    Delivers env db c ↔ Silent env db c := by
  obtain ⟨user, request⟩ := c
  cases request with
  | sendMessage ci saved =>
    have hn : ¬ (step env db ⟨user, .sendMessage ci saved⟩).messages.length
        = db.messages.length + 1 := by
      rw [step_sendMessage]
      exact Nat.ne_of_lt (Nat.lt_succ_self _)
    constructor
    · intro h hmay
      exact hn (h.1.mpr hmay)
    · intro hno
      exact ⟨iff_of_false hn hno, fun hcrd => absurd hcrd hn⟩
  | likeCreator creatorId now saves | swipeAction creatorId action saved memberSaved
  | acceptCreatorConnection ci now notified saved
  | declineCreatorConnection ci now notified saved
  | blockCreatorConnection ci now saved | unmatch ci deleted
  | bulkCreatorConnectionAction => rfl

/-- In every sequence of connection operations and messages, from any store,
messages are delivered exactly when none is sent that should be. -/
theorem messages_delivered_iff (env : Env) (db : Db) (calls : List Call) :
    Runs.Every (step env) (Delivers env) db calls ↔ Runs.Every (step env) (Silent env) db calls :=
  Runs.every_congr (delivers_iff_silent env)

theorem message_over_connection_refused :
    let before := Runs.final (step twoUsers) emptyDb
      [memberCall likeTwenty, creatorCall (.acceptCreatorConnection (.id 0) 0 true true)]
    let message := memberCall (.sendMessage (.id 0) true)
    (before.find? 0).any Connection.canMessage = true ∧ (message.run twoUsers before).2
        = .failure 404 "CreatorConnection not found or not active"
      ∧ ¬ Delivers twoUsers before message := by
  refine ⟨by decide +kernel, by decide +kernel, fun h => ?_⟩
  have hmay : MaySend twoUsers (Runs.final (step twoUsers) emptyDb
      [memberCall likeTwenty, creatorCall (.acceptCreatorConnection (.id 0) 0 true true)])
      ⟨0, .member⟩ (.id 0) := ⟨0, _, rfl, rfl, rfl, .inl (.inl rfl)⟩
  have hcre := h.1.mpr hmay
  revert hcre
  decide +kernel

end SexySelfies.Connections
