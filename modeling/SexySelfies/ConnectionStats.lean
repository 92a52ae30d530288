import SexySelfies.ConnectionModel
import SexySelfies.Runs

/-!
# The connection statistic of a creator

`establishConnection` counts the stored connections of the creator that are `connected` and writes
the number to `stats.totalConnections`. The connection that is being accepted is saved only
afterwards: the count is taken from a store in which it is still `pending`.
-/

namespace SexySelfies.Connections

open Js Platform Runs

/-! ## The service with its statistic -/

structure CreatorStats where
  user : Nat
  totalConnections : Nat

structure State where
  db : Db
  creators : List CreatorStats

variable (s : State)

def State.creatorOf (user : Nat) : Option Nat :=
  (Collection.findOne (fun c : CreatorStats => c.user = user) s.creators).map Prod.fst

def State.env : Env :=
  ⟨fun _ => none, s.creatorOf, fun creator => creator < s.creators.length⟩

def Db.connectedCount (db : Db) (creator : Nat) : Nat :=
  db.connections.countP fun o => o.any fun c => c.creator = creator ∧ c.status = .connected

variable (creator : Nat) (s : State)

def updateCreatorConnectionStats : State :=
  { s with
    creators := s.creators.modify creator fun c =>
      { c with totalConnections := s.db.connectedCount creator } }

variable (user : Nat)

def State.request? (connectionId : Ref) : Option (Nat × Connection) :=
  match connectionId with
  | .id id =>
    match s.db.find? id with
    | some c =>
      if s.creatorOf user = some c.creator ∧ c.status = .pending then some (id, c) else none
    | none => none
  | _ => none

def State.establish (connectionId : Ref) (action : String)
    (notified : Bool) : State :=
  match s.request? user connectionId with
  | some (_, c) =>
    if action = "accept" ∧ notified = true then updateCreatorConnectionStats c.creator s else s
  | none => s

def State.handleConnectionResponse (connectionId : Ref) (action : String)
    (now : ℤ) (notified saved : Bool) : State × Except String ResponseResult :=
  match Connections.handleConnectionResponse s.env user connectionId action now notified saved
      s.db with
  | .ok (db, result) => ({ s.establish user connectionId action notified with db }, .ok result)
  | .error e => (s.establish user connectionId action notified, .error e)

def State.processSwipe (memberId : Nat) (creatorId : Ref) (direction : Value)
    (saved : Bool) : State × Except String SwipeResult :=
  match Connections.processSwipe memberId creatorId direction saved s.db with
  | .ok (db, result) => ({ s with db }, .ok result)
  | .error e => (s, .error e)

inductive Event where
  | swipe (memberId : Nat) (creatorId : Ref) (direction : Value)
  | response (user : Nat) (connectionId : Ref) (action : String) (now : ℤ)

def State.step : Event → State
  | .swipe memberId creatorId direction => (s.processSwipe memberId creatorId direction true).1
  | .response user connectionId action now =>
    (s.handleConnectionResponse user connectionId action now true true).1

def Event.Accepted : Event → Prop
  | .swipe _ _ _ => False
  | .response user connectionId action now =>
    ∃ result, (s.handleConnectionResponse user connectionId action now true true).2 = .ok result
      ∧ result.isNewConnection = true ∧ result.connection.creator = creator

def Event.Accepts : Event → Prop
  | .swipe _ _ _ => False
  | .response user connectionId action _ =>
    action = "accept" ∧ ∃ id c, s.request? user connectionId = some (id, c) ∧ c.creator = creator

/-- The creator's total is the number of connections. -/
def State.Counted : Prop :=
  ∃ c, s.creators[creator]? = some c ∧ c.totalConnections = s.db.connectedCount creator

/-! ## What an acceptance leaves -/

variable {s : State} {user id : Nat} {connectionId : Ref} {action : String} {now : ℤ}
  {c : Connection}

theorem request?_some (h : s.request? user connectionId = some (id, c)) :
    connectionId = .id id ∧ s.db.find? id = some c ∧ s.creatorOf user = some c.creator
      ∧ c.status = .pending := by
  unfold State.request? at h
  split at h
  · split at h
    · next hf =>
      split at h
      · next hp =>
        cases h
        exact ⟨rfl, hf, hp⟩
      · cases h
    · cases h
  · cases h

variable {creator : Nat}

theorem creatorOf_lt (h : s.creatorOf user = some creator) : creator < s.creators.length := by
  obtain ⟨⟨i, c⟩, hf, rfl⟩ := Option.map_eq_some_iff.mp h
  exact (List.getElem?_eq_some_iff.mp (Collection.findOne_some hf).1).1

theorem response_of_request (h : s.request? user connectionId = some (id, c)) :
    s.handleConnectionResponse user connectionId "accept" now true true
    = ({ updateCreatorConnectionStats c.creator s with db := s.db.put id (c.accepted now) },
        .ok ⟨c.accepted now, true⟩) := by
  obtain ⟨rfl, hf, hcr, hp⟩ := request?_some h
  have hrun : Connections.handleConnectionResponse s.env user (.id id) "accept" now true true s.db
      = .ok (s.db.put id (c.accepted now), ⟨c.accepted now, true⟩) := by
    have hcr : s.env.creatorOf user = some c.creator := hcr
    simp only [Connections.handleConnectionResponse, hcr, hf, hp, true_and, if_true, save_respond]
    rfl
  simp [State.handleConnectionResponse, State.establish, h, hrun]

theorem request_of_ok {result : ResponseResult}
    (h : (s.handleConnectionResponse user connectionId action now true true).2 = .ok result) :
    action = "accept" ∧ ∃ id c, s.request? user connectionId = some (id, c) := by
  unfold State.handleConnectionResponse at h
  split at h
  · next hok =>
    obtain ⟨id, c, rfl, hf, hcr, hp, hac, -⟩ := handleConnectionResponse_ok hok
    have hcr : s.creatorOf user = some c.creator := hcr
    refine ⟨hac, id, c, ?_⟩
    simp [State.request?, hf, hcr, hp]
  · cases h

theorem accepted_iff (e : Event) : e.Accepted creator s ↔ e.Accepts creator s := by
  cases e with
  | swipe => rfl
  | response user connectionId action now =>
    constructor
    · rintro ⟨result, hok, -, hcr⟩
      obtain ⟨hac, id, c, hreq⟩ := request_of_ok hok
      subst hac
      rw [response_of_request hreq] at hok
      cases hok
      exact ⟨rfl, id, c, hreq, hcr⟩
    · rintro ⟨rfl, id, c, hreq, hcr⟩
      exact ⟨⟨c.accepted now, true⟩, by rw [response_of_request hreq], rfl, hcr⟩

theorem connectedCount_accepted (hf : s.db.find? id = some c) (hp : c.status = .pending) :
    (s.db.put id (c.accepted now)).connectedCount c.creator
      = s.db.connectedCount c.creator + 1 := by
  have hget : s.db.connections[id]? = some (some c) := by
    unfold Db.find? at hf
    rwa [Option.join_eq_some_iff] at hf
  unfold Db.connectedCount Db.put
  rw [List.set_eq_modify]
  refine Collection.countP_modify hget ?_ ?_
  · simp [hp]
  · simp [Connection.accepted]

theorem statistic_of_accepts {e : Event} (h : e.Accepts creator s) :
    ∃ c, (s.step e).creators[creator]? = some c
      ∧ c.totalConnections + 1 = (s.step e).db.connectedCount creator := by
  cases e with
  | swipe => exact h.elim
  | response =>
    obtain ⟨rfl, id, c, hreq, rfl⟩ := h
    obtain ⟨-, hf, hcr, hp⟩ := request?_some hreq
    have hget := List.getElem?_eq_getElem (creatorOf_lt hcr)
    simp only [State.step, response_of_request hreq, connectedCount_accepted hf hp]
    exact ⟨_, Collection.getElem?_modify_self hget _, rfl⟩

theorem not_counted_of_accepts {e : Event} (h : e.Accepts creator s) :
    ¬ (s.step e).Counted creator := by
  rintro ⟨c, hget, hc⟩
  obtain ⟨c', hget', hc'⟩ := statistic_of_accepts h
  obtain rfl := Option.mem_unique hget hget'
  omega

/-- The statistic is the number of connections after each accepted request
exactly if no request is accepted. -/
theorem counted_iff_nothing_accepted (creator : Nat) (s : State) (events : List Event) :
    Every State.step (fun s e => e.Accepted creator s → (s.step e).Counted creator) s events
      ↔ Every State.step (fun s e => ¬ e.Accepts creator s) s events := by
  refine every_congr fun s e => ?_
  rw [accepted_iff]
  constructor
  · intro h hacc
    exact not_counted_of_accepts hacc (h hacc)
  · intro h hacc
    exact absurd hacc h

def sampleState : State := ⟨.noConnections (fun _ => []) (fun _ => []) [], [⟨7, 0⟩]⟩

def sampleEvents : List Event :=
  [.swipe 3 (.id 0) (.str "right"), .response 7 (.id 0) "accept" 0]

theorem accepted_connection_not_counted :
    ¬ Every State.step (fun s e => e.Accepted 0 s → (s.step e).Counted 0) sampleState
      sampleEvents := by
  rintro ⟨-, h, -⟩
  obtain ⟨c, hget, hc⟩ := h ⟨_, rfl, rfl, rfl⟩
  cases hget
  exact absurd hc (by decide)

end SexySelfies.Connections
